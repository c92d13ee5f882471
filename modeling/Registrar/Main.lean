import Registrar.Program

/-!
# The program on a real system

The classes of the host for the files and streams of the operating system, and the entry point. All
decisions are made elsewhere; here requests are passed on, and refusals are given their names.
-/

namespace Registrar

/-- The refusal that an error of the system stands for. -/
def OsError.ofError : IO.Error → OsError
  | .noFileOrDirectory _ _ _ => .notFound
  | .noSuchThing _ _ _ => .notFound
  | .alreadyExists _ _ _ => .alreadyExists
  | .inappropriateType _ code details =>
    if code = 20 then .notDirectory else if code = 21 then .isDirectory else .other details
  | .invalidArgument _ code details => if code = 36 then .nameTooLong else .other details
  | error => .other error.toString

/-- Performs an action and names its refusal. -/
def attempt {α : Type} (action : IO α) : IO (Except OsError α) := do
  match ← action.toBaseIO with
  | .ok result => return .ok result
  | .error error => return .error (OsError.ofError error)

/-- Performs an action on a path and names its refusal. -/
def attemptOn {α : Type} (path : Path) (action : IO α) : IO (Except OsError α) := do
  if path.text.toList.contains '\x00' then return .error .nulByte
  attempt action

/-- Opens a file or directory and closes it again. -/
def probe (path : Path) : IO (Except OsError Unit) :=
  attemptOn path (IO.FS.withFile path.text .read fun _ => pure ())

instance : Disk IO where
  read path := attemptOn path do return (← IO.FS.readBinFile path.text).toList
  write path content := attemptOn path (IO.FS.writeBinFile path.text content.toByteArray)
  append path content := attemptOn path
    (IO.FS.withFile path.text .append fun file => file.write content.toByteArray)
  makeDirectory path := attemptOn path (IO.FS.createDir path.text)
  isDirectory path := do
    match ← attemptOn path (IO.FS.withFile path.text .read fun file => file.read 1) with
    | .error .isDirectory => return true
    | _ => return false
  isPresent path := do
    match ← probe path with
    | .error .notFound | .error .notDirectory => return false
    | _ => return true

/-- Reads a stream to its end. -/
partial def readToEnd (stream : IO.FS.Stream) (before : ByteArray) : IO ByteArray := do
  let chunk ← stream.read 65536
  if chunk.isEmpty then return before else readToEnd stream (before ++ chunk)

instance : Console IO where
  input := do return (← readToEnd (← IO.getStdin) ByteArray.empty).toList
  print bytes := attempt do
    let output ← IO.getStdout
    output.write bytes.toByteArray
    output.flush
  printError text := do
    let errors ← IO.getStderr
    errors.putStr text

/-- The variable that a text of the form `name=value` sets. -/
def assignment? (text : String) : Option (String × String) :=
  let cs := text.toList
  match cs.dropWhile (· != '=') with
  | _ :: value => some (String.ofList (cs.takeWhile (· != '=')), String.ofList value)
  | [] => none

/-- All variables of the environment. -/
def readEnvironment : IO Settings.Environment := do
  match ← (Disk.read ⟨"/proc/self/environ"⟩ : IO _) with
  | .ok bytes =>
    return (Text.split 0 bytes).filterMap fun entry => Text.decode? entry >>= assignment?
  | .error _ => return []

/-- The directory of the user's settings. -/
def configDirectory (env : Settings.Environment) : Option Path :=
  match env.lookup "XDG_CONFIG_HOME" with
  | some text => if Path.isAbsolute ⟨text⟩ then some ⟨text⟩ else home
  | none => home
where
  home := (env.lookup "HOME").map fun text => Path.join ⟨text⟩ ⟨".config"⟩

end Registrar

/-- The entry point. -/
def main (args : List String) : IO UInt32 := do
  let env ← Registrar.readEnvironment
  let directory := (← IO.currentDir).toString
  Registrar.Program.execute ⟨env, ⟨directory⟩, Registrar.configDirectory env⟩ args
