import Registrar.Settings.Tree

/-!
# TOML tables

The tables of a document while it is read. A table is made by a header or by a point inside a name,
or it is implied by the path to another one; which of these it was decides what may still be added
to it:

* a header may make a table of an implied one, once, and not of one made by a point;
* a name with a point may add to a table that was implied, and only to one made by a point itself;
* a header in double brackets adds a table to an array of tables.
-/

namespace Registrar.Toml

open Settings (Tree)

mutual

/-- What a name of a table stands for. -/
inductive Item where
  | value (tree : Tree)
  | table (table : Table)
  /-- an array of tables, the last one first -/
  | tables (last : Table) (before : List Table)

/-- A table. -/
inductive Table where
  /-- `implied`: no header made it; `pointed`: a point in a name made it -/
  | mk (implied pointed : Bool) (items : List (String × Item))

end

namespace Table

/-- Whether no header made the table. -/
def implied : Table → Bool
  | .mk implied _ _ => implied

/-- Whether a point in a name made the table. -/
def pointed : Table → Bool
  | .mk _ pointed _ => pointed

/-- The items of the table. -/
def items : Table → List (String × Item)
  | .mk _ _ items => items

/-- A table made by a header. -/
def explicit : Table :=
  .mk false false []

/-- What a name stands for. -/
def find? (t : Table) (name : String) : Option Item :=
  t.items.lookup name

/-- Sets what a name stands for. -/
def set (t : Table) (name : String) (item : Item) : Table :=
  .mk t.implied t.pointed ((t.items.filter (·.1 != name)) ++ [(name, item)])

/-- Changes the table at the end of a path, and makes the tables on the way to it. `byPoint` tells
that the path is part of a name. -/
def descend (byPoint : Bool) (change : Table → Option Table) : List String → Table → Option Table
  | [], t => change t
  | name :: path, t =>
    match t.find? name with
    | none => do
      return t.set name (.table (← descend byPoint change path (.mk true byPoint [])))
    | some (.value _) => none
    | some (.tables last before) => do
      return t.set name (.tables (← descend byPoint change path last) before)
    | some (.table child) =>
      if byPoint && !child.implied then none
      else do return t.set name (.table (← descend byPoint change path child))

/-- Adds a value under a path of names. -/
def addValue (tree : Tree) (path : List String) : Table → Option Table :=
  descend true (fun t => do
    guard (t.pointed != path.dropLast.isEmpty)
    let name ← path.getLast?
    guard (t.find? name).isNone
    return t.set name (.value tree)) path.dropLast

/-- Makes the table that a header names. -/
def addTable (path : List String) : Table → Option Table :=
  descend false (fun t => do
    let name ← path.getLast?
    match t.find? name with
    | none => return t.set name (.table explicit)
    | some (.table child) =>
      guard (child.implied && !child.pointed)
      return t.set name (.table (.mk false false child.items))
    | some _ => none) path.dropLast

/-- Adds a table to the array that a header names. -/
def addToArray (path : List String) : Table → Option Table :=
  descend false (fun t => do
    let name ← path.getLast?
    match t.find? name with
    | none => return t.set name (.tables explicit [])
    | some (.tables last before) => return t.set name (.tables explicit (last :: before))
    | some _ => none) path.dropLast

end Table

/-! ## Trees -/

mutual

/-- The tree of an item. -/
def Item.toTree : Item → Tree
  | .value tree => tree
  | .table table => table.toTree
  | .tables last before => .array .document ((tableTrees before).reverse ++ [last.toTree])

/-- The tree of a table. -/
def Table.toTree : Table → Tree
  | .mk _ _ items => Settings.tableOf .document (itemTrees items)

/-- The trees of several tables. -/
def tableTrees : List Table → List Tree
  | [] => []
  | table :: rest => table.toTree :: tableTrees rest

/-- The trees of named items. -/
def itemTrees : List (String × Item) → List (String × Tree)
  | [] => []
  | (name, item) :: rest => (name, item.toTree) :: itemTrees rest

end

end Registrar.Toml
