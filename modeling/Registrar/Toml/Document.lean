import Registrar.Toml.DateTime
import Registrar.Toml.Scalar
import Registrar.Toml.Table
import Registrar.Toml.Text

/-!
# TOML documents

A document is a sequence of lines: headers of tables, headers of arrays of tables, and values under
names, which belong to the table of the last header. `read` gives the tree of a document, or nothing
when the text is no document. The brackets of one value nest at most `maxDepth` deep, arrays and
tables counted together, and no path has more names than that.
-/

namespace Registrar.Toml

open Settings (Tree Scalar)

/-! ## Values -/

/-- The table of names and values. -/
def inlineTable? (pairs : List (List String × Tree)) : Option Tree := do
  let table ← pairs.foldlM (fun table (path, tree) => table.addValue tree path) Table.explicit
  return table.toTree

/-- The name under which the settings know a date or a time. -/
def dateTimeName : String :=
  "$__toml_private_datetime"

/-- A date or a time, which the settings know as a table with one entry. -/
def DateTime.toTree (d : DateTime) : Tree :=
  Settings.tableOf .document [(dateTimeName, .leaf .document (.text d.text))]

mutual

/-- A value. The fuel bounds how many values there are, and the lines between them; `room` is how
many brackets may still be opened. -/
def value? : Nat → Nat → List Char → Option (Tree × List Char)
  | 0, _, _ => none
  | _ + 1, 0, '[' :: _ => none
  | _ + 1, 0, '\x7b' :: _ => none
  | fuel + 1, room + 1, '[' :: rest => do
    let (items, rest) ← items? fuel room rest
    return (.array .document items, rest)
  | fuel + 1, room + 1, '\x7b' :: rest => do
    let (pairs, rest) ← match skipBlanks rest with
      | '\x7d' :: rest => some ([], rest)
      | rest => pairs? fuel room rest
    return (← inlineTable? pairs, rest)
  | _ + 1, _, cs =>
    match cs with
    | '"' :: _ | '\'' :: _ =>
      (string? cs).map fun (text, rest) => (.leaf .document (.text (String.ofList text)), rest)
    | _ =>
      match dateTime? cs with
      | some (dateTime, rest) => some (dateTime.toTree, rest)
      | none => do
        let scalar ← word? (cs.takeWhile isWordChar)
        return (.leaf .document scalar, cs.dropWhile isWordChar)

/-- The items of an array up to its end. -/
def items? : Nat → Nat → List Char → Option (List Tree × List Char)
  | 0, _, _ => none
  | fuel + 1, room, cs => do
    match ← skipLines? fuel cs with
    | ']' :: rest => return ([], rest)
    | cs => do
      let (item, rest) ← value? fuel room cs
      match ← skipLines? fuel rest with
      | ',' :: rest => do
        let (items, rest) ← items? fuel room rest
        return (item :: items, rest)
      | ']' :: rest => return ([item], rest)
      | _ => none

/-- The names and values of a table in braces up to its end. -/
def pairs? : Nat → Nat → List Char → Option (List (List String × Tree) × List Char)
  | 0, _, _ => none
  | fuel + 1, room, cs => do
    let (pair, rest) ← pair? fuel room cs
    match skipBlanks rest with
    | ',' :: rest => do
      let (pairs, rest) ← pairs? fuel room rest
      return (pair :: pairs, rest)
    | '\x7d' :: rest => return ([pair], rest)
    | _ => none

/-- A path and its value. -/
def pair? : Nat → Nat → List Char → Option ((List String × Tree) × List Char)
  | 0, _, _ => none
  | fuel + 1, room, cs => do
    let (path, rest) ← path? fuel cs
    let '=' :: rest := skipBlanks rest | none
    let (tree, rest) ← value? fuel room (skipBlanks rest)
    return ((path, tree), rest)

end

/-! ## Lines -/

/-- A document as far as it was read: all its tables, and the path of the last header. -/
structure Draft where
  root : Table
  current : List String

/-- Takes one line that is not empty. -/
def takeLine? (fuel : Nat) (draft : Draft) : List Char → Option (Draft × List Char)
  | '[' :: '[' :: rest => do
    let (path, rest) ← path? fuel rest
    let ']' :: ']' :: rest := skipBlanks rest | none
    return (⟨← draft.root.addToArray path, path⟩, rest)
  | '[' :: rest => do
    let (path, rest) ← path? fuel rest
    let ']' :: rest := skipBlanks rest | none
    return (⟨← draft.root.addTable path, path⟩, rest)
  | cs => do
    let ((path, tree), rest) ← pair? fuel maxDepth cs
    let root ← draft.root.descend false (Table.addValue tree path) draft.current
    return (⟨root, draft.current⟩, rest)

/-- Takes lines to the end of the document; the fuel bounds how many there are. -/
def takeLines? : Nat → Draft → List Char → Option Table
  | 0, _, _ => none
  | fuel + 1, draft, cs => do
    let cs ← skipLines? fuel cs
    if cs.isEmpty then return draft.root
    let (draft, rest) ← takeLine? fuel draft cs
    takeLines? fuel draft (← restOfLine? rest)

/-- The tree of a document. A mark of byte order in front of it does not count. -/
def read (text : String) : Option Tree := do
  let cs := match text.toList with
    | '\ufeff' :: rest => rest
    | cs => cs
  return (← takeLines? (2 * cs.length + 3) ⟨Table.explicit, []⟩ cs).toTree

end Registrar.Toml
