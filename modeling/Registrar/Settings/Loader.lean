import Registrar.Host
import Registrar.Settings.Extract
import Registrar.Settings.Profile
import Registrar.Settings.Validate
import Registrar.Settings.Variables
import Registrar.Settings.Wrapped
import Registrar.Toml.Document

/-!
# Loading settings

Settings come from several sources, each laid over the one before: the defaults, the settings files,
the environment, and what the program itself sets. A loader says which files are meant. Either one
file is named, or directories are searched in their order: in each the file of the profile is taken
when it is there, and the first directory with a main file ends the search. What the program sets is
laid together by itself before it is laid over the rest.

The first source that cannot be read fails the whole, except that broken text in the environment is
noticed before the contents of files are.
-/

namespace Registrar

namespace Settings

/-- Why settings cannot be had. -/
inductive LoadError where
  /-- the named file is absent -/
  | fileNotFound (path : Path)
  /-- the named file has another extension -/
  | unknownFormat (extension : String)
  /-- the text of a variable is broken -/
  | brokenVariable
  /-- a file is no document of its format -/
  | unreadable
  /-- a source of the program is no table -/
  | noTable (found : String)
  /-- the sources together do not make up settings -/
  | misfit (m : Misfit)
  deriving DecidableEq, Repr

/-- The error in one line. -/
def LoadError.message : LoadError → String
  | .fileNotFound path => "Configuration file not found: " ++ path.text
  | .unknownFormat extension =>
    parsing ++ "Unsupported or disabled configuration file format: ." ++ extension
  | .brokenVariable => parsing ++ "quoted text cut inside a character"
  | .unreadable => parsing ++ extracting ++ "TOML parse error"
  | .noTable found => parsing ++ extracting ++ (Flaw.wrongType found "map").message
  | .misfit m => parsing ++ extracting ++ m.message
where
  parsing := "Failed to parse configuration: "
  extracting := "Failed to extract configuration: "

/-- The message for settings that make no sense. -/
def invalidMessage (fault : SettingsFault) : String :=
  "Invalid configuration: " ++ fault.message

/-- What a loader knows of the world around it. -/
structure Surroundings where
  environment : Environment
  workingDirectory : Path
  /-- the directory of the user's settings -/
  configDirectory : Option Path

/-- The variable that names the profile. -/
def profileVariable : String :=
  "ANNOGEN_PROFILE"

/-- The profile that the environment names. -/
def Surroundings.profile (s : Surroundings) : Profile :=
  match s.environment.lookup profileVariable with
  | some name => Profile.ofName name
  | none => .development

/-- Which sources are meant. -/
structure Loader where
  profile : Profile
  /-- the one file that is meant, in place of a search -/
  file : Option Path := none
  /-- the directories to search; the usual ones when there are none -/
  searchPaths : List Path := []
  usesEnvironment : Bool := true
  /-- what the program sets, each over the one before -/
  overrides : List Tree := []

/-- The main settings file of a directory. -/
def mainFile (directory : Path) : Path :=
  directory.join ⟨"annogen.toml"⟩

/-- The settings file of a profile in a directory. -/
def profileFile (profile : Profile) (directory : Path) : Path :=
  directory.join ⟨"annogen." ++ profile.name ++ ".toml"⟩

/-- The directories that a loader searches. -/
def Loader.directories (l : Loader) (s : Surroundings) : List Path :=
  if l.searchPaths.isEmpty then
    s.workingDirectory :: (s.configDirectory.map (·.join ⟨"annogen"⟩)).toList
  else l.searchPaths

/-! ## Sources -/

/-- Settings of one source, or why it has none. -/
abbrev Source := Except LoadError Tree

/-- A source that must be a table. -/
def tableSource (tree : Tree) : Source :=
  match tree with
  | .table _ _ => .ok tree
  | tree => .error (.noTable tree.describe)

/-- Lays sources over each other; the first one that failed fails the whole. -/
def layer (start : Tree) : List Source → Source
  | [] => .ok start
  | .ok tree :: rest => layer (start.merge tree) rest
  | .error e :: _ => .error e

/-- A table without entries. -/
def emptyTable : Tree :=
  .table .document []

/-- What the program sets, as one source. -/
def Loader.overridesSource (l : Loader) : Source :=
  layer emptyTable (l.overrides.map tableSource)

/-- The settings of the environment, when they are meant. -/
def Loader.environmentTrees (l : Loader) (s : Surroundings) : Except LoadError (List Tree) :=
  if !l.usesEnvironment then .ok []
  else
    match ofEnvironment? s.environment with
    | some tree => .ok [tree]
    | none => .error .brokenVariable

section Files

variable {m : Type → Type} [Monad m] [Disk m]

/-- The source that a file holds. What cannot be read as a file holds nothing. -/
def fileSource (path : Path) : m Source := do
  match ← Disk.read path with
  | .error _ => return .ok emptyTable
  | .ok bytes =>
    match Text.decode? bytes >>= Toml.read >>= Tree.unwrapEntries? with
    | some tree => return .ok tree
    | none => return .error .unreadable

/-- The files that a search finds, in the order of their layers. -/
def search (profile : Profile) : List Path → m (List Path)
  | [] => return []
  | directory :: rest => do
    let own := profileFile profile directory
    let found := if ← Disk.isPresent own then [own] else []
    let main := mainFile directory
    if ← Disk.isPresent main then return found ++ [main]
    else return found ++ (← search profile rest)

/-- The files that are meant. -/
def Loader.files (l : Loader) (s : Surroundings) : m (Except LoadError (List Path)) := do
  match l.file with
  | none => return .ok (← search l.profile (l.directories s))
  | some path =>
    if !(← Disk.isPresent path) then return .error (.fileNotFound path)
    let extension := path.extension.getD ""
    if extension = "toml" then return .ok [path]
    else return .error (.unknownFormat extension)

/-- All sources that are meant, in the order of their layers. -/
def Loader.sources (l : Loader) (s : Surroundings) : m (Except LoadError (List Source)) := do
  match ← l.files s with
  | .error e => return .error e
  | .ok files =>
    let fromFiles ← files.mapM fileSource
    return do
      let fromEnvironment ← l.environmentTrees s
      return fromFiles ++ fromEnvironment.map .ok ++ [l.overridesSource]

/-- The settings that all sources make up together. -/
def Loader.load (l : Loader) (s : Surroundings) : m (Except LoadError Settings) := do
  match ← l.sources s with
  | .error e => return .error e
  | .ok sources =>
    return do
      let tree ← layer emptyTable sources
      (ofTree tree).mapError .misfit

end Files

end Settings

end Registrar
