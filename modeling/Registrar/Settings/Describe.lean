import Registrar.Settings.Basic
import Registrar.Text.Described
import Registrar.Text.Quoted

/-!
# Settings in one line

How the log shows the settings of a run: every setting by its name, in the order of the settings.
-/

namespace Registrar

open Text.Described

/-- The points in the life of a span, each with whether it is logged, behind a title. -/
def SpanEvents.describe (e : SpanEvents) (title : String) : String :=
  braced title [entry "new" (word e.new), entry "enter" (word e.enter),
    entry "exit" (word e.exit), entry "close" (word e.close)]

/-- A path that may be unset. -/
def describePath (path : Option Path) : String :=
  optional (path.map fun p => Text.Quoted.writePath p.text)

/-- The settings of the log in one line. -/
def LogSettings.describe (s : LogSettings) : String :=
  let filters := s.filters.map fun (name, level) =>
    entry (Text.Quoted.write name) (capitalized level.name)
  braced "LoggingConfig" [
    entry "level" (capitalized s.level.name),
    entry "format" (capitalized s.format.name),
    entry "output" (capitalized s.output.name),
    entry "file_path" (describePath s.filePath),
    entry "span_events" (s.spanEvents.describe "SpanEventConfig"),
    entry "thread_ids" (word s.threadIds),
    entry "file_location" (word s.fileLocation),
    entry "filters" ("\x7b" ++ ", ".intercalate filters ++ "\x7d")]

/-- All settings in one line. -/
def Settings.describe (s : Settings) : String :=
  braced "AnnogenConfig" [
    entry "logging" s.log.describe,
    entry "input" (braced "InputConfig" [entry "feed" (describePath s.input.feed)]),
    entry "output" (braced "OutputConfig" [
      entry "base_dir" (describePath s.output.baseDir),
      entry "dry_run" (word s.output.dryRun),
      entry "check" (word s.output.check)])]

end Registrar
