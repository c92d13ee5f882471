import Registrar.Log.Filter
import Registrar.Settings.Describe

/-!
# Plans for the log

What a log is to show, how, and where. A plan is made from the settings or step by step, and
`Plan.describe` shows all of it.
-/

namespace Registrar.Log

/-- How a log is set up. -/
structure Plan where
  /-- the texts of directives for single parts of the program -/
  directives : List String := []
  level : Option Level := none
  spanEvents : SpanEvents := {}
  format : LogFormat := .compact
  output : LogOutput := .stderr
  /-- whether lines show the part that reports -/
  target : Bool := true
  threadIds : Bool := false
  /-- whether lines show the source file that reports -/
  file : Bool := false
  /-- whether lines show the line of the source file -/
  lineNumber : Bool := false
  filePath : Option Path := none
  deriving DecidableEq, Repr

namespace Plan

/-- The plan that settings describe. -/
def ofSettings (s : LogSettings) : Plan where
  directives := s.filters.map fun (name, level) => name ++ "=" ++ level.name
  level := some s.level
  spanEvents := s.spanEvents
  format := s.format
  output := s.output
  threadIds := s.threadIds
  file := s.fileLocation
  lineNumber := s.fileLocation
  filePath := s.filePath

/-- The filter that a plan starts from: a text from outside takes the place of the level when it is
right. -/
def startFilter (plan : Plan) (outside : Option String) : Directive.Reading Filter :=
  let base := Filter.base (plan.level.getD .info)
  match outside.map Filter.ofText with
  | none | some (.error .malformed) => .ok base
  | some result => result

/-- Adds the directive that a text spells. One that is wrong is left out. -/
def addText (filter : Filter) (text : String) : Directive.Reading Filter :=
  match Directive.ofText text with
  | .ok d => .ok (filter.add d)
  | .error .malformed => .ok filter
  | .error .torn => .error .torn

/-- The filter of the plan, unless a text it is made from is torn. -/
def filter? (plan : Plan) (outside : Option String) : Option Filter :=
  (do plan.directives.foldlM addText (← plan.startFilter outside)).toOption

/-! ## Description -/

open Text.Described

/-- All of the plan in one line. -/
def describe (plan : Plan) : String :=
  braced "LoggingBuilder" [
    entry "directives" (Text.Quoted.writeList plan.directives),
    entry "level" (optional (plan.level.map fun level =>
      "Level(" ++ capitalized level.name ++ ")")),
    entry "span_events" (plan.spanEvents.describe "SpanEvents"),
    entry "format" (capitalized plan.format.name),
    entry "output" (capitalized plan.output.name),
    entry "with_target" (word plan.target),
    entry "with_thread_ids" (word plan.threadIds),
    entry "with_file" (word plan.file),
    entry "with_line_number" (word plan.lineNumber),
    entry "file_path" (describePath plan.filePath)]

end Plan

end Registrar.Log
