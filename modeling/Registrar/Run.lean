import Registrar.Build.Trace
import Registrar.Emission
import Registrar.Feed.Stream

/-!
# A run

A run reads the feed, generates files from its events, and emits them. The whole feed is read before
the first event counts, and all files are generated before the first is emitted. In a check, stale
files fail the run.
-/

namespace Registrar

open Log (Notice Record Span pathField numberField)

/-- Why a run fails. -/
inductive RunError where
  /-- an event of the feed was refused -/
  | feed (error : Feed.FeedError)
  /-- the feed could be opened and not be read -/
  | unreadable (reason : OsError)
  /-- the events do not make up a build -/
  | build (error : BuildError)
  /-- the host refused -/
  | io (failure : IoFailure)
  /-- a check found stale files -/
  | stale (paths : List Path)

/-- What a feed failed on, in words. -/
def Feed.FeedError.message (e : Feed.FeedError) : String :=
  "Invalid annotation event #" ++ toString e.index ++ ": " ++ e.fault.message Feed.Mismatch.message

/-- The error in one line. A refusal of the host is named with the path and once more on its own. -/
def RunError.message : RunError → String
  | .feed e => e.message
  | .unreadable reason => "Invalid annotation event #0: " ++ reason.message
  | .build e => e.message
  | .io failure =>
    "I/O error on '" ++ failure.path.text ++ "': " ++ failure.reason.message ++ ": " ++
      failure.reason.message
  | .stale paths => staleMessage paths

/-- The name under which the feed reports. -/
def feedTarget : String :=
  "annogen_runtime::feed"

namespace Run

variable {m : Type → Type} [Monad m] [Disk m] [Console m]

/-! ## Reading -/

/-- Reports how many events a feed held. -/
def eventsRecord (events : List Event) : Record :=
  if events.isEmpty then
    ⟨.warn, feedTarget, "Annotation feed is empty, nothing will be generated", []⟩
  else ⟨.debug, feedTarget, "Annotation feed decoded", [numberField "count" events.length]⟩

/-- The events that bytes hold. -/
def decode (log : Notice → m Unit) (bytes : Text.Bytes) : ExceptT RunError m (List Event) := do
  match Feed.read bytes with
  | .error e => throw (.feed e)
  | .ok events =>
    log (.record none (eventsRecord events))
    return events

/-- The events of the feed, from a file or from the input. A directory can be opened like a file and
not be read. -/
def readFeed (log : Notice → m Unit) (s : InputSettings) : ExceptT RunError m (List Event) := do
  match s.feed with
  | none =>
    log (.record none ⟨.debug, runTarget, "Reading annotation feed from stdin", []⟩)
    decode log (← (Console.input : m _))
  | some path =>
    let opened : Notice :=
      .record none ⟨.debug, feedTarget, "Reading annotation feed", [pathField "path" path]⟩
    match ← (Disk.read path : m _) with
    | .ok bytes =>
      log opened
      decode log bytes
    | .error .isDirectory =>
      log opened
      throw (.unreadable .isDirectory)
    | .error reason => throw (.io ⟨path, reason⟩)

/-! ## Generating and emitting -/

/-- The span of work around the events of a run. -/
def span (events : List Event) : Span :=
  ⟨.info, runTarget, "generate", [numberField "events" events.length]⟩

/-- Generates and emits the files of events, inside the span. -/
def work (log : Record → m Unit) (o : OutputSettings) (events : List Event) :
    ExceptT RunError m Report := do
  let (records, result) := generateTraced events
  for record in records do log record
  match result with
  | .error e => throw (.build e)
  | .ok files =>
    let report ← (Emission.emit log o files).adapt .io
    if report.stale.isEmpty then
      log ⟨.info, runTarget, "Generation finished", [("report", report.summary)]⟩
      return report
    else throw (.stale report.stale)

/-- Runs on events that are already decoded. -/
def onEvents (log : Notice → m Unit) (o : OutputSettings) (events : List Event) :
    ExceptT RunError m Report := ExceptT.mk do
  let s := span events
  log (.moment .new s)
  log (.moment .enter s)
  let result ← (work (fun r => log (.record (some s) r)) o events).run
  log (.moment .exit s)
  log (.moment .close s)
  return result

/-- Reads the feed and runs on its events. -/
def run (log : Notice → m Unit) (s : Settings) : ExceptT RunError m Report := do
  onEvents log s.output (← readFeed log s.input)

end Run

end Registrar
