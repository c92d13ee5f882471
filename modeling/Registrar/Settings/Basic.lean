import Registrar.Log.Level
import Registrar.Path

/-!
# Settings

Everything about a run that can be set: the log, the feed, and what is done with generated files.
The defaults stand beside the fields.
-/

namespace Registrar

/-- How log lines look. -/
inductive LogFormat where
  | compact
  | full
  | pretty
  | json
  deriving DecidableEq, Repr

/-- Every format. -/
def LogFormat.all : List LogFormat :=
  [.compact, .full, .pretty, .json]

/-- The name of a format in settings. -/
def LogFormat.name : LogFormat → String
  | .compact => "compact"
  | .full => "full"
  | .pretty => "pretty"
  | .json => "json"

/-- Where log lines go. -/
inductive LogOutput where
  | stdout
  | stderr
  | file
  deriving DecidableEq, Repr

/-- Every destination. -/
def LogOutput.all : List LogOutput :=
  [.stdout, .stderr, .file]

/-- The name of a destination in settings. -/
def LogOutput.name : LogOutput → String
  | .stdout => "stdout"
  | .stderr => "stderr"
  | .file => "file"

/-- Which points in the life of a span are logged. -/
structure SpanEvents where
  new : Bool := false
  enter : Bool := false
  exit : Bool := false
  close : Bool := false
  deriving DecidableEq, Repr

/-- The settings of the log. -/
structure LogSettings where
  level : Level := .info
  format : LogFormat := .compact
  output : LogOutput := .stderr
  /-- the file that lines go to when they go to a file -/
  filePath : Option Path := none
  spanEvents : SpanEvents := {}
  threadIds : Bool := false
  fileLocation : Bool := false
  /-- levels of single parts of the program, by ascending name -/
  filters : List (String × Level) := []
  deriving DecidableEq, Repr

/-- The settings of the feed. -/
structure InputSettings where
  /-- the file that holds the feed; the input of the program when unset -/
  feed : Option Path := none
  deriving DecidableEq, Repr

/-- The settings of generated files. -/
structure OutputSettings where
  /-- the directory that relative paths are joined to -/
  baseDir : Option Path := none
  /-- print files and write none -/
  dryRun : Bool := false
  /-- compare files and write none -/
  check : Bool := false
  deriving DecidableEq, Repr

/-- All settings of a run. -/
structure Settings where
  log : LogSettings := {}
  input : InputSettings := {}
  output : OutputSettings := {}
  deriving DecidableEq, Repr

end Registrar
