import Registrar.Build
import Registrar.Host
import Registrar.Log.Record
import Registrar.Report
import Registrar.Settings.Basic

/-!
# Emitting generated files

What happens to generated files, in the order of their paths: by default a file is written unless it
already holds its content, a check only compares, and a dry run prints. The first refusal of the
host ends the emission, and what was done before stays done.

Everything is written against the classes of the host, and reports through a function it is given.
-/

namespace Registrar

open Log (Record pathField numberField)
open Text (Bytes)

/-- A refusal of the host, and the path it concerns. -/
structure IoFailure where
  path : Path
  reason : OsError
  deriving DecidableEq, Repr

/-- The name under which emission reports. -/
def runTarget : String :=
  "annogen_runtime::driver"

/-- Where a generated file goes: relative paths are joined to the base directory. -/
def OutputSettings.resolve (o : OutputSettings) (path : Path) : Path :=
  match o.baseDir with
  | some base => if path.isRelative then base.join path else path
  | none => path

namespace Emission

variable {m : Type → Type} [Monad m] [Disk m] [Console m]

/-- Names the path that a refusal concerns. -/
def onPath {α : Type} (path : Path) (action : m (Except OsError α)) : ExceptT IoFailure m α :=
  ExceptT.mk do return (← action).mapError fun reason => ⟨path, reason⟩

/-- Whether a file holds exactly a content; an absent file does not. -/
def isUpToDate (path : Path) (content : Bytes) : ExceptT IoFailure m Bool := do
  match ← (Disk.read path : m _) with
  | .ok existing => return existing = content
  | .error .notFound => return false
  | .error reason => throw ⟨path, reason⟩

/-- Gives a file its content, and makes the directories it lies in. -/
def writeFile (path : Path) (content : Bytes) : ExceptT IoFailure m Unit := do
  match path.parent with
  | some parent =>
    if parent.components.isEmpty then pure ()
    else onPath parent (Disk.makeDirectories parent)
  | none => pure ()
  onPath path (Disk.write path content)

/-- The heading of a printed file. -/
def heading (path : Path) : String :=
  "// ── " ++ path.text ++ "\n"

/-- The name that messages give to the output. -/
def outputPath : Path :=
  ⟨"<stdout>"⟩

/-- Prints a file below its heading. -/
def printFile (path : Path) (content : Bytes) : ExceptT IoFailure m Unit := do
  onPath outputPath (Console.print (Text.encode (heading path)))
  onPath outputPath (Console.print content)

/-- Emits one file. -/
def emitFile (log : Record → m Unit) (o : OutputSettings) (path : Path) (content : Bytes) :
    ExceptT IoFailure m Outcome := do
  if o.dryRun then
    printFile path content
    return .printed
  if ← isUpToDate path content then
    if !o.check then
      log ⟨.debug, runTarget, "Generated file unchanged", [pathField "path" path]⟩
    return .unchanged
  if o.check then
    log ⟨.info, runTarget, "Generated file is stale", [pathField "path" path]⟩
    return .stale
  writeFile path content
  log ⟨.info, runTarget, "Generated file written",
    [pathField "path" path, numberField "bytes" content.length]⟩
  return .written

/-- Emits files after those already reported. -/
def emitFrom (log : Record → m Unit) (o : OutputSettings) (r : Report) :
    GeneratedFiles → ExceptT IoFailure m Report
  | [] => return r
  | (path, content) :: files => do
    let path := o.resolve path
    let outcome ← emitFile log o path content
    emitFrom log o (r.add path outcome) files

/-- Emits files in their order. -/
def emit (log : Record → m Unit) (o : OutputSettings) (files : GeneratedFiles) :
    ExceptT IoFailure m Report :=
  emitFrom log o {} files

end Emission

end Registrar
