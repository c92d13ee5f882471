import Registrar.Host

/-!
# A tree of files

The files of a host as a value: a finite tree of directories and files without links, and the
directory that relative paths start in. Paths are walked segment by segment: `.` and empty segments
stay, `..` goes up and stays at the root, and every segment but the last must lead through a
directory. A slash at the end asks for a directory.
-/

namespace Registrar

open Text (Bytes)

/-- The names that lead from the root to an entry. -/
abbrev Place := List String

/-- An entry of the tree. -/
inductive Node where
  | file (content : Bytes)
  | directory
  deriving DecidableEq, Repr

/-- Entries by their places, and the place that relative paths start in. The root is always a
directory. -/
structure FileTree where
  entries : List (Place × Node)
  here : Place
  deriving DecidableEq, Repr

namespace FileTree

/-- What is at a place. -/
def node? (t : FileTree) (place : Place) : Option Node :=
  if place = [] then some .directory else t.entries.lookup place

/-- Puts an entry at a place, over what is there. -/
def put (t : FileTree) (place : Place) (node : Node) : FileTree :=
  { t with entries := (t.entries.filter (·.1 != place)) ++ [(place, node)] }

/-! ## Walking -/

/-- The most bytes of a name. -/
def maxName : Nat := 255

/-- The least number of bytes that a path may not have. -/
def pathEnd : Nat := 4096

/-- Takes one segment of a path from a place, which must be a directory. -/
def enter (t : FileTree) (place : Place) (segment : String) : Except OsError Place :=
  match t.node? place with
  | none => .error .notFound
  | some (.file _) => .error .notDirectory
  | some .directory =>
    if Path.isIdle segment then .ok place
    else if segment = ".." then .ok place.dropLast
    else if maxName < segment.utf8ByteSize then .error .nameTooLong
    else .ok (place ++ [segment])

/-- The place that segments lead to; nothing needs to be there. -/
def walk (t : FileTree) (place : Place) (segments : List String) : Except OsError Place :=
  segments.foldlM t.enter place

/-- What no path may be. -/
def refuse? (p : Path) : Option OsError :=
  if p.text.toList.contains '\x00' then some .nulByte
  else if p.text = "" then some .notFound
  else if pathEnd ≤ p.text.utf8ByteSize then some .nameTooLong
  else none

/-- The place where a path starts. -/
def origin (t : FileTree) (p : Path) : Place :=
  if p.isAbsolute then [] else t.here

/-- The place that a path leads to. -/
def locate (t : FileTree) (p : Path) : Except OsError Place :=
  match refuse? p with
  | some e => .error e
  | none => t.walk (t.origin p) p.segments

/-- The directory that the last segment of a path is looked up in, and that segment; slashes at the
end do not count. -/
def locateParent (t : FileTree) (p : Path) : Except OsError (Place × Option String) :=
  match refuse? p with
  | some e => .error e
  | none => do
    let steps := (p.segments.reverse.dropWhile (· = "")).reverse
    let place ← t.walk (t.origin p) steps.dropLast
    let place ← t.enter place "."
    return (place, steps.getLast?)

/-! ## Operations -/

/-- What a path leads to. -/
def find? (t : FileTree) (p : Path) : Except OsError Node := do
  match t.node? (← t.locate p) with
  | some node => return node
  | none => throw .notFound

/-- The content of a file. -/
def read (t : FileTree) (p : Path) : Except OsError Bytes := do
  match ← t.find? p with
  | .file content => return content
  | .directory => throw .isDirectory

/-- Gives a file the content that follows from its old one; an absent file has none. -/
def modify (t : FileTree) (p : Path) (change : Bytes → Bytes) : Except OsError FileTree := do
  let (place, last) ← t.locateParent p
  match last with
  | none | some "." | some ".." => throw .isDirectory
  | some name =>
    if p.text.toList.getLast? = some '/' then throw .isDirectory
    let target ← t.enter place name
    match t.node? target with
    | some .directory => throw .isDirectory
    | some (.file content) => return t.put target (.file (change content))
    | none => return t.put target (.file (change []))

/-- Makes one directory. -/
def makeDirectory (t : FileTree) (p : Path) : Except OsError FileTree := do
  let (place, last) ← t.locateParent p
  match last with
  | none | some "." | some ".." => throw .alreadyExists
  | some name =>
    let target ← t.enter place name
    match t.node? target with
    | some _ => throw .alreadyExists
    | none => return t.put target .directory

/-- Whether a path leads to a directory. -/
def isDirectory (t : FileTree) (p : Path) : Bool :=
  match t.find? p with
  | .ok .directory => true
  | _ => false

/-- Whether a path leads to anything. -/
def isPresent (t : FileTree) (p : Path) : Bool :=
  (t.find? p).isOk

end FileTree

/-! ## A host as a value -/

/-- How far a host goes along with an operation that changes files. -/
inductive Grant where
  /-- it does what is asked -/
  | whole
  /-- it refuses, and nothing changes -/
  | refused (reason : OsError)
  /-- it fails when it has stored so many of the bytes -/
  | broken (stored : Nat) (reason : OsError)
  deriving DecidableEq, Repr

/-- A tree of files, what the host grants of the changes that are asked for at a path, the input,
and what was printed. -/
structure World where
  tree : FileTree
  /-- what is granted: permissions, space and whatever else a host may run out of -/
  grant : FileTree → Path → Grant := fun _ _ => .whole
  input : Bytes
  output : Bytes
  errors : String

namespace World

/-- Replaces the tree, or leaves it when the operation failed. -/
def update (change : FileTree → Except OsError FileTree) : StateM World (Except OsError Unit) :=
  fun w =>
    match change w.tree with
    | .ok tree => (.ok (), { w with tree })
    | .error e => (.error e, w)

/-- Changes files as far as the host goes along: `change` says what comes of the first bytes of a
content, as many as were stored. -/
def request (p : Path) (content : Bytes) (change : Bytes → FileTree → Except OsError FileTree) :
    StateM World (Except OsError Unit) :=
  fun w =>
    match w.grant w.tree p with
    | .whole => update (change content) w
    | .refused reason => (.error reason, w)
    | .broken stored reason =>
      let (result, w') := update (change (content.take stored)) w
      (result >>= fun _ => .error reason, w')

/-- Makes a directory if the host goes along; there is no half of one. -/
def requestDirectory (p : Path) : StateM World (Except OsError Unit) :=
  fun w =>
    match w.grant w.tree p with
    | .whole => update (fun t => t.makeDirectory p) w
    | .refused reason | .broken _ reason => (.error reason, w)

instance : Disk (StateM World) where
  read p := fun w => (w.tree.read p, w)
  write p content := request p content fun stored t => t.modify p fun _ => stored
  append p content := request p content fun stored t => t.modify p fun old => old ++ stored
  makeDirectory p := requestDirectory p
  isDirectory p := fun w => (w.tree.isDirectory p, w)
  isPresent p := fun w => (w.tree.isPresent p, w)

instance : Console (StateM World) where
  input := fun w => (w.input, w)
  print bytes := fun w => (.ok (), { w with output := w.output ++ bytes })
  printError text := fun w => ((), { w with errors := w.errors ++ text })

end World

end Registrar
