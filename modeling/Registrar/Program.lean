import Registrar.CommandLine
import Registrar.Log.Line
import Registrar.Run
import Registrar.Settings.Loader

/-!
# The program

From the arguments to the exit code: load the settings, check them, open the log, run, and say how
it went. Everything happens through the classes of the host.
-/

namespace Registrar

namespace Program

open Log (Notice Record Plan Filter numberField)
open Settings (Surroundings Loader LoadError)

variable {m : Type → Type} [Monad m] [Disk m] [Console m]

/-! ## The log -/

/-- Where log lines go. -/
inductive Sink where
  | output
  | errors
  | file (path : Path)

/-- The name of a log file whose path has none. -/
def defaultLogName : String :=
  "annogen.log"

/-- The directory and the whole path of a log file. -/
def logFile (path : Path) : Path × Path :=
  let directory := match path.parent with
    | some parent => if parent.text = "" then ⟨"."⟩ else parent
    | none => ⟨"."⟩
  (directory, directory.join ⟨path.fileName.getD defaultLogName⟩)

/-- Makes a log file ready, and the directories it lies in when need be. -/
def openLogFile (path : Path) : m (Option Sink) := do
  let (directory, file) := logFile path
  match ← Disk.append file [] with
  | .ok () => return some (.file file)
  | .error _ =>
    match ← Disk.makeDirectories directory with
    | .error _ => return none
    | .ok () =>
      match ← Disk.append file [] with
      | .ok () => return some (.file file)
      | .error _ => return none

/-- Makes the log of a plan ready. -/
def openSink (plan : Plan) : m (Option Sink) :=
  match plan.output with
  | .stdout => return some .output
  | .stderr => return some .errors
  | .file =>
    match plan.filePath with
    | some path => openLogFile path
    | none => return none

/-- Adds text to the log; a log that cannot be written to is given up silently. -/
def Sink.write (sink : Sink) (text : String) : m Unit :=
  match sink with
  | .output => do let _ ← Console.print (Text.encode text)
  | .errors => Console.printError text
  | .file path => do let _ ← Disk.append path (Text.encode text)

/-- Logs what happens, as far as the filter shows it. -/
def logTo (plan : Plan) (filter : Filter) (sink : Sink) (notice : Notice) : m Unit :=
  match Log.noticeText? plan filter notice with
  | some text => sink.write text
  | none => return ()

/-! ## The run -/

/-- The name under which the program reports. -/
def target : String :=
  "annogen"

/-- The variable that holds a filter for the log. -/
def filterVariable : String :=
  "RUST_LOG"

/-- What the program says when it fails. -/
def failureText (message : String) : String :=
  "annogen: error: " ++ message ++ "\n"

/-- The exit code of a program that cannot go on and does not say why. -/
def breakdownCode : UInt32 := 101

/-- Says that the program failed. -/
def fail (message : String) : m UInt32 := do
  Console.printError (failureText message)
  return 1

/-- Runs with settings that make sense. -/
def runWith (s : Surroundings) (settings : Settings) : m UInt32 := do
  let plan := Plan.ofSettings settings.log
  let some filter := plan.filter? (s.environment.lookup filterVariable) | return breakdownCode
  let some sink ← openSink plan | return breakdownCode
  let log (notice : Notice) : m Unit := logTo plan filter sink notice
  log (.record none ⟨.debug, target, "Configuration resolved",
    [("config", settings.describe)]⟩)
  match ← (Run.run log settings).run with
  | .ok report =>
    log (.record none ⟨.info, target, "Done", [numberField "total" report.total]⟩)
    Console.printError ("annogen: " ++ report.summary ++ "\n")
    return 0
  | .error e =>
    log (.record none ⟨.error, target, e.message, []⟩)
    fail e.message

/-- Runs with options. -/
def runOptions (s : Surroundings) (o : Options) : m UInt32 := do
  let loader : Loader := { profile := s.profile, file := o.config, overrides := [o.toTree] }
  match ← loader.load s with
  | .error .brokenVariable => return breakdownCode
  | .error e => fail ("Failed to load configuration: " ++ e.message)
  | .ok settings =>
    match settings.validate with
    | .error fault => fail (Settings.invalidMessage fault)
    | .ok () => runWith s settings

/-- Does what the arguments ask for; the result is the exit code. -/
def execute (s : Surroundings) (args : List String) : m UInt32 :=
  match CommandLine.parse args with
  | .help => do
    let _ ← Console.print (Text.encode CommandLine.helpText)
    return 0
  | .version => do
    let _ ← Console.print (Text.encode CommandLine.versionText)
    return 0
  | .refused => do
    Console.printError CommandLine.refusalText
    return 2
  | .run o => runOptions s o

end Program

end Registrar
