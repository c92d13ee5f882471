import Registrar.Binary64.Shortest
import Registrar.Json.Value
import Registrar.Text.Quoted

/-!
# Settings as trees

Every source of settings gives a tree: tables of named entries down to single values. Each node
remembers where it came from, because messages name an entry differently by its origin. Entries of a
table stand in ascending order of their names.

Sources are layered by `Tree.merge`: tables are joined entry by entry, and anything else in a later
source replaces what an earlier one said.
-/

namespace Registrar.Settings

/-- Where a part of the settings came from. -/
inductive Origin where
  /-- a file, or the program itself -/
  | document
  /-- a variable of the environment -/
  | environment
  deriving DecidableEq, Repr

/-- A single value. -/
inductive Scalar where
  /-- no value -/
  | unit
  | bool (value : Bool)
  /-- one character that was written as such -/
  | char (value : Char)
  | text (value : String)
  /-- an integer of a source that has signs -/
  | signed (value : Int)
  /-- an integer of a source that has none -/
  | unsigned (value : Nat)
  | float (value : Binary64)
  deriving DecidableEq, Repr

/-- Settings of one source, or of several in layers. -/
inductive Tree where
  | leaf (origin : Origin) (value : Scalar)
  | array (origin : Origin) (items : List Tree)
  | table (origin : Origin) (entries : List (String × Tree))
  deriving Repr

/-- The origin of a tree. -/
def Tree.origin : Tree → Origin
  | .leaf origin _ => origin
  | .array origin _ => origin
  | .table origin _ => origin

/-! ## Tables -/

/-- Sets the entry of a name. -/
def setEntry (name : String) (tree : Tree) : List (String × Tree) → List (String × Tree)
  | [] => [(name, tree)]
  | (other, old) :: rest =>
    if name < other then (name, tree) :: (other, old) :: rest
    else if name = other then (name, tree) :: rest
    else (other, old) :: setEntry name tree rest

/-- The table of a list of entries, later ones replacing earlier ones. -/
def tableOf (origin : Origin) (entries : List (String × Tree)) : Tree :=
  .table origin (entries.foldl (fun table entry => setEntry entry.1 entry.2 table) [])

/-- The table that holds one entry at the end of a path. -/
def nest (origin : Origin) (tree : Tree) : List String → Tree
  | [] => tree
  | name :: path => .table origin [(name, nest origin tree path)]

mutual

/-- Lays a later tree over an earlier one. -/
def Tree.merge (old : Tree) : Tree → Tree
  | .table origin entries =>
    match old with
    | .table _ earlier => .table origin (mergeEntries earlier entries)
    | _ => .table origin entries
  | new => new

/-- Lays entries over those of an earlier table. -/
def mergeEntries (earlier : List (String × Tree)) : List (String × Tree) → List (String × Tree)
  | [] => earlier
  | (name, tree) :: rest =>
    let merged := match earlier.lookup name with
      | some old => old.merge tree
      | none => tree
    mergeEntries (setEntry name merged earlier) rest

end

/-! ## Settings given as JSON -/

mutual

/-- The tree of a JSON value. -/
def Tree.ofJson : Json.Value → Tree
  | .null => .leaf .document .unit
  | .boolean b => .leaf .document (.bool b)
  | .number (.integer (.ofNat n)) => .leaf .document (.unsigned n)
  | .number (.integer n) => .leaf .document (.signed n)
  | .number (.floating x) => .leaf .document (.float x)
  | .string s => .leaf .document (.text s)
  | .array items => .array .document (treesOfJson items)
  | .object members => tableOf .document (entriesOfJson members)

/-- The trees of the items of an array. -/
def treesOfJson : List Json.Value → List Tree
  | [] => []
  | item :: items => Tree.ofJson item :: treesOfJson items

/-- The entries of the members of an object. -/
def entriesOfJson : List (String × Json.Value) → List (String × Tree)
  | [] => []
  | (name, value) :: members => (name, Tree.ofJson value) :: entriesOfJson members

end

/-! ## Faults -/

/-- How messages call a single value. -/
def Scalar.describe : Scalar → String
  | .unit => "unit"
  | .bool b => "bool " ++ (if b then "true" else "false")
  | .char c => "string " ++ Text.Quoted.write (String.singleton c)
  | .text s => "string " ++ Text.Quoted.write s
  | .signed n => "signed int `" ++ toString n ++ "`"
  | .unsigned n => "unsigned int `" ++ toString n ++ "`"
  | .float x => "float `" ++ x.toPlainText ++ "`"

/-- How messages call a tree. -/
def Tree.describe : Tree → String
  | .leaf _ value => value.describe
  | .array _ _ => "sequence"
  | .table _ _ => "map"

/-- What is wrong with a part of the settings. -/
inductive Flaw where
  /-- it is of another type -/
  | wrongType (found expected : String)
  /-- it names none of the alternatives -/
  | unknownVariant (name : String) (known : List String)
  deriving DecidableEq, Repr

/-- The flaw in words. -/
def Flaw.message : Flaw → String
  | .wrongType found expected => "invalid type: found " ++ found ++ ", expected " ++ expected
  | .unknownVariant name known =>
    "unknown variant: found `" ++ name ++ "`, expected `one of " ++
      ", ".intercalate (known.map fun name => "`" ++ name ++ "`") ++ "`"

/-- A flaw and the path to it. -/
structure Misfit where
  flaw : Flaw
  origin : Origin
  path : List String
  deriving DecidableEq, Repr

/-- How messages spell the path to an entry: from the root of all settings, or as a variable of the
environment. -/
def Origin.spell (origin : Origin) (path : List String) : String :=
  match origin with
  | .document => ".".intercalate ("default" :: path)
  | .environment =>
    ".".intercalate (path.map fun name => String.ofList (name.toList.map Char.toUpper))

/-- The misfit in words. -/
def Misfit.message (misfit : Misfit) : String :=
  misfit.flaw.message ++
    if misfit.path.isEmpty then ""
    else " for key " ++ Text.Quoted.write (misfit.origin.spell misfit.path)

end Registrar.Settings
