import Registrar.OsError
import Registrar.Path
import Registrar.Text.Encoding

/-!
# What the program asks of its host

`Disk` is the part of the host that holds files, and `Console` the one that reads input and prints.
Everything that acts on files is written against these classes, and so runs on the real system as
well as on a tree of files held as a value.
-/

namespace Registrar

open Text (Bytes)

/-- Files and directories. -/
class Disk (m : Type → Type) where
  /-- the content of a file -/
  read : Path → m (Except OsError Bytes)
  /-- gives a file its content, and makes it when it is absent -/
  write : Path → Bytes → m (Except OsError Unit)
  /-- adds to the end of a file, and makes it when it is absent -/
  append : Path → Bytes → m (Except OsError Unit)
  /-- makes one directory -/
  makeDirectory : Path → m (Except OsError Unit)
  /-- whether a directory is there -/
  isDirectory : Path → m Bool
  /-- whether anything is there -/
  isPresent : Path → m Bool

/-- Input and output of the program itself. -/
class Console (m : Type → Type) where
  /-- all of the input -/
  input : m Bytes
  /-- prints output -/
  print : Bytes → m (Except OsError Unit)
  /-- prints messages -/
  printError : String → m Unit

namespace Disk

variable {m : Type → Type} [Monad m] [Disk m]

/-- Makes a directory where none is yet. -/
def ensureDirectory (path : Path) : m (Except OsError Unit) := do
  match ← makeDirectory path with
  | .ok () => return .ok ()
  | .error e => if ← isDirectory path then return .ok () else return .error e

/-- Makes a directory together with those it lies in; `fuel` bounds how many there are. -/
def makeDirectoriesUpTo : Nat → Path → m (Except OsError Unit)
  | 0, _ => return .ok ()
  | fuel + 1, path => do
    if path.components.isEmpty then return .ok ()
    match ← ensureDirectory path with
    | .error .notFound =>
      match path.parent with
      | none => return .error .notFound
      | some parent =>
        match ← makeDirectoriesUpTo fuel parent with
        | .error e => return .error e
        | .ok () => ensureDirectory path
    | result => return result

/-- Makes a directory together with those it lies in. -/
def makeDirectories (path : Path) : m (Except OsError Unit) :=
  makeDirectoriesUpTo (path.components.length + 1) path

end Disk

end Registrar
