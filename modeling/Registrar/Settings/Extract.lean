import Registrar.Settings.Basic
import Registrar.Settings.Tree

/-!
# Settings from a tree

Each part of the settings is read from its place in the tree. A record is a table whose entries are
read in their order, entries that name no field being passed over, or an array of its fields in
their order, of which any number may be missing or left over. The first misfit wins. What the tree
does not mention keeps its default.
-/

namespace Registrar.Settings

/-- What reading a tree gives. -/
abbrev Extracted := Except Misfit

/-- The misfit of a tree of another type. -/
def Misfit.ofTree (tree : Tree) (expected : String) : Misfit :=
  ⟨.wrongType tree.describe expected, tree.origin, []⟩

/-- Notes that a misfit lies below an entry. -/
def within {α : Type} (name : String) (result : Extracted α) : Extracted α :=
  result.mapError fun misfit => { misfit with path := name :: misfit.path }

/-! ## Values -/

/-- Reads a truth value. -/
def readBool : Tree → Extracted Bool
  | .leaf _ (.bool b) => .ok b
  | tree => .error (.ofTree tree "a boolean")

/-- Reads a path, which may be unset. -/
def readPath : Tree → Extracted (Option Path)
  | .leaf _ .unit => .ok none
  | .leaf _ (.text s) => .ok (some ⟨s⟩)
  | .leaf _ (.char c) => .ok (some ⟨String.singleton c⟩)
  | tree => .error (.ofTree tree "path string")

/-- A closed set of alternatives. -/
structure Choice (α : Type) where
  /-- what messages call the set -/
  title : String
  name : α → String
  all : List α

/-- Finds an alternative by its name. -/
def Choice.find {α : Type} (choice : Choice α) (origin : Origin) (text : String) : Extracted α :=
  match choice.all.find? fun a => choice.name a = text with
  | some a => .ok a
  | none => .error ⟨.unknownVariant text (choice.all.map choice.name), origin, []⟩

/-- Reads an alternative: its name, or a table whose first entry has that name and no value. The
origin of that entry counts, which a table in several layers need not share. -/
def Choice.read {α : Type} (choice : Choice α) : Tree → Extracted α
  | .leaf origin (.text s) => choice.find origin s
  | .table origin [] => .error ⟨.wrongType "map" "enum", origin, []⟩
  | .table _ ((name, tree) :: _) => within name do
    let found ← choice.find tree.origin name
    match tree with
    | .leaf _ .unit => return found
    | tree => throw (.ofTree tree "unit")
  | tree => .error (.ofTree tree ("enum " ++ choice.title))

/-! ## Records -/

/-- A field of a record: its name, and how it changes the record. -/
structure Field (σ : Type) where
  name : String
  read : Tree → Extracted (σ → σ)

/-- A field that holds one value. -/
def Field.of {σ α : Type} (name : String) (read : Tree → Extracted α) (set : α → σ → σ) :
    Field σ :=
  ⟨name, fun tree => set <$> read tree⟩

/-- A kind of record. -/
structure Layout (σ : Type) where
  /-- what messages call the record -/
  title : String
  fields : List (Field σ)

namespace Layout

variable {σ : Type}

/-- Takes one entry of a table. -/
def readEntry (layout : Layout σ) (s : σ) (entry : String × Tree) : Extracted σ :=
  match layout.fields.find? fun field => field.name = entry.1 with
  | some field => do return (← within entry.1 (field.read entry.2)) s
  | none => .ok s

/-- Takes the items of an array, each for the field in its position. -/
def readItems (s : σ) (position : Nat) : List (Field σ) → List Tree → Extracted σ
  | field :: fields, item :: items => do
    let change ← within (toString position) (field.read item)
    readItems (change s) (position + 1) fields items
  | _, _ => .ok s

/-- Reads a record over its defaults. -/
def read (layout : Layout σ) (default : σ) : Tree → Extracted σ
  | .table _ entries => entries.foldlM layout.readEntry default
  | .array _ items => readItems default 0 layout.fields items
  | tree => .error (.ofTree tree layout.title)

end Layout

/-! ## The settings -/

/-- The levels of the log. -/
def levelChoice : Choice Level :=
  ⟨"LogLevel", Level.name, Level.all⟩

/-- The formats of the log. -/
def formatChoice : Choice LogFormat :=
  ⟨"LogFormat", LogFormat.name, LogFormat.all⟩

/-- The destinations of the log. -/
def outputChoice : Choice LogOutput :=
  ⟨"LogOutput", LogOutput.name, LogOutput.all⟩

/-- The points in the life of a span. -/
def spanLayout : Layout SpanEvents where
  title := "struct SpanEventConfig"
  fields := [.of "new" readBool fun b s => { s with new := b },
    .of "enter" readBool fun b s => { s with enter := b },
    .of "exit" readBool fun b s => { s with exit := b },
    .of "close" readBool fun b s => { s with close := b }]

/-- Reads the levels of parts of the program. -/
def readFilters : Tree → Extracted (List (String × Level))
  | .table _ entries => entries.mapM fun (name, tree) => do
    return (name, ← within name (levelChoice.read tree))
  | tree => .error (.ofTree tree "a map")

/-- The settings of the log. -/
def logLayout : Layout LogSettings where
  title := "struct LoggingConfig"
  fields := [.of "level" levelChoice.read fun x s => { s with level := x },
    .of "format" formatChoice.read fun x s => { s with format := x },
    .of "output" outputChoice.read fun x s => { s with output := x },
    .of "file_path" readPath fun x s => { s with filePath := x },
    .of "span_events" (spanLayout.read {}) fun x s => { s with spanEvents := x },
    .of "thread_ids" readBool fun x s => { s with threadIds := x },
    .of "file_location" readBool fun x s => { s with fileLocation := x },
    .of "filters" readFilters fun x s => { s with filters := x }]

/-- The settings of the feed. -/
def inputLayout : Layout InputSettings where
  title := "struct InputConfig"
  fields := [.of "feed" readPath fun x s => { s with feed := x }]

/-- The settings of generated files. -/
def outputLayout : Layout OutputSettings where
  title := "struct OutputConfig"
  fields := [.of "base_dir" readPath fun x s => { s with baseDir := x },
    .of "dry_run" readBool fun x s => { s with dryRun := x },
    .of "check" readBool fun x s => { s with check := x }]

/-- All settings. -/
def layout : Layout Settings where
  title := "struct AnnogenConfig"
  fields := [.of "logging" (logLayout.read {}) fun x s => { s with log := x },
    .of "input" (inputLayout.read {}) fun x s => { s with input := x },
    .of "output" (outputLayout.read {}) fun x s => { s with output := x }]

/-- The settings that a tree describes. -/
def ofTree (tree : Tree) : Extracted Settings :=
  layout.read {} tree

end Registrar.Settings
