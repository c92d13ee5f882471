import Registrar.Settings.Basic
import Registrar.Text.Blank

/-!
# Settings that make sense

Settings of the right types may still not go together. `Settings.validate` finds the first fault, in
a fixed order.
-/

namespace Registrar

/-- A fault in settings of the right types. -/
inductive SettingsFault where
  | emptyLogPath
  | missingLogPath
  | emptyFilter
  | emptyFeed
  | dryRunWithCheck
  | emptyBaseDir
  deriving DecidableEq, Repr

/-- The fault in words. -/
def SettingsFault.message : SettingsFault → String
  | .emptyLogPath => "Log file path must not be empty"
  | .missingLogPath => "logging.file_path is required when logging.output = \"file\""
  | .emptyFilter => "Log filter module must not be empty"
  | .emptyFeed => "input.feed must not be empty"
  | .dryRunWithCheck => "output.dry_run and output.check are mutually exclusive"
  | .emptyBaseDir => "output.base_dir must not be empty"

/-- Whether a path is given and empty. -/
def isEmptyPath (path : Option Path) : Bool :=
  path = some ⟨""⟩

/-- Refuses the settings when a condition holds. -/
def refuseIf (condition : Bool) (fault : SettingsFault) : Except SettingsFault Unit :=
  if condition then .error fault else .ok ()

/-- Checks the settings, one fault after the other. -/
def Settings.validate (s : Settings) : Except SettingsFault Unit := do
  refuseIf (isEmptyPath s.log.filePath) .emptyLogPath
  refuseIf (s.log.output = .file && s.log.filePath.isNone) .missingLogPath
  refuseIf (s.log.filters.any fun filter => Text.trim filter.1 = "") .emptyFilter
  refuseIf (isEmptyPath s.input.feed) .emptyFeed
  refuseIf (s.output.dryRun && s.output.check) .dryRunWithCheck
  refuseIf (isEmptyPath s.output.baseDir) .emptyBaseDir

end Registrar
