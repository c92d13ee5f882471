import Registrar.Settings.Tree
import Registrar.Text.Blank
import Registrar.Text.Cut
import Registrar.Text.Escape
import Registrar.Text.Integer
import Registrar.Text.Split

/-!
# Settings from the environment

A variable whose name starts with `ANNOGEN_`, in any case, sets the entry that the rest of its name
spells: two underscores, or a point, lead into a table. A name with an empty part sets nothing.

The text of a variable is a truth value, a table or array of such texts, quoted text, one character,
a number, or else itself. Text that starts like one of these and does not end like it stands for
itself as a whole.

In quoted text that holds an escape, the characters in front of the first escape count as so many
bytes: only that many bytes of them are kept. All of them are ASCII in most texts, and then none is
lost. Where the cut falls inside a character the text is broken, and no settings can be had from an
environment that holds it.
-/

namespace Registrar.Settings

/-! ## Values -/

/-- Skips white space. -/
def skipBlank (cs : List Char) : List Char :=
  cs.dropWhile fun c => c = ' ' || c = '\t' || c = '\n' || c = '\x0c' || c = '\r'

/-- Whether the character ends plain text. -/
def isSeparator (c : Char) : Bool :=
  c = ',' || c = '\x7b' || c = '\x7d' || c = '[' || c = ']'

/-- Whether the character may stand in a name without quotes. -/
def isNameChar (c : Char) : Bool :=
  c.isAlphanum || c = '_' || c = '-'

/-- What plain text means. -/
def plainScalar (cs : List Char) : Scalar :=
  let float? := if cs.contains '.' then Binary64.ofChars? cs else none
  match float?, Text.natural? cs, Text.negative? cs with
  | some x, _, _ => .float x
  | none, some n, _ => .unsigned n
  | none, none, some n => .signed n
  | none, none, none => .text (String.ofList cs)

/-- Why the front of a text has no value of its own. -/
inductive Unread where
  /-- it is not spelled like one -/
  | unlike
  /-- its quoted text is cut inside a character -/
  | broken
  deriving DecidableEq, Repr

/-- What reading the front of a text gives. -/
abbrev Reading := Except Unread

/-- Whether a double quote ends the text; behind a backslash it does not. -/
def isClosed : List Char → Bool
  | [] => false
  | '"' :: _ => true
  | '\\' :: _ :: rest => isClosed rest
  | _ :: rest => isClosed rest

/-- The text up to a closing double quote. -/
def quotedText (cs : List Char) : Reading (List Char × List Char) := do
  let front := cs.takeWhile fun c => c != '"' && c != '\\'
  let rest := cs.drop front.length
  if !isClosed rest || !front.all Text.isQuotable then throw .unlike
  if rest.head? = some '"' then return (front, rest.tail)
  let some (kept, _) := Text.cutAtByte? front.length front | throw .broken
  let some (text, rest) := Text.quoted? rest | throw .unlike
  return (kept ++ text, rest)

/-- A name in front of an equals sign. -/
def entryName (cs : List Char) : Reading (String × List Char) :=
  match cs with
  | '"' :: rest => do
    let (text, rest) ← quotedText rest
    return (String.ofList text, rest)
  | _ =>
    let name := cs.takeWhile isNameChar
    if name.isEmpty then throw .unlike else return (String.ofList name, cs.dropWhile isNameChar)

/-- A leaf of the environment. -/
def variableLeaf (value : Scalar) : Tree :=
  .leaf .environment value

mutual

/-- A value at the front of a text, and the text behind it and the blanks that follow it. The fuel
bounds how many values there are. -/
def readValue : Nat → List Char → Reading (Tree × List Char)
  | 0, _ => throw .unlike
  | fuel + 1, cs => do
    let (tree, rest) ← match skipBlank cs with
      | 't' :: 'r' :: 'u' :: 'e' :: rest => pure (variableLeaf (.bool true), rest)
      | 'f' :: 'a' :: 'l' :: 's' :: 'e' :: rest => pure (variableLeaf (.bool false), rest)
      | '\x7b' :: rest => do
        let (entries, rest) ← readEntries fuel rest
        pure (tableOf .environment entries, rest)
      | '[' :: rest => do
        let (items, rest) ← readItems fuel rest
        pure (.array .environment items, rest)
      | '"' :: rest => do
        let (text, rest) ← quotedText rest
        pure (variableLeaf (.text (String.ofList text)), rest)
      | '\'' :: rest =>
        match rest with
        | c :: '\'' :: rest => pure (variableLeaf (.char c), rest)
        | _ => throw .unlike
      | plain =>
        pure (variableLeaf (plainScalar (Text.trimBlank (plain.takeWhile (!isSeparator ·)))),
          plain.dropWhile (!isSeparator ·))
    return (tree, skipBlank rest)

/-- The items of an array up to its end. -/
def readItems : Nat → List Char → Reading (List Tree × List Char)
  | 0, _ => throw .unlike
  | _ + 1, ']' :: rest => return ([], rest)
  | fuel + 1, cs => do
    let (item, rest) ← readValue fuel cs
    match rest with
    | ',' :: rest => do
      let (items, rest) ← readItems fuel rest
      return (item :: items, rest)
    | ']' :: rest => return ([item], rest)
    | _ => throw .unlike

/-- The entries of a table up to its end. -/
def readEntries : Nat → List Char → Reading (List (String × Tree) × List Char)
  | 0, _ => throw .unlike
  | _ + 1, '\x7d' :: rest => return ([], rest)
  | fuel + 1, cs => do
    let (name, rest) ← entryName (skipBlank cs)
    let '=' :: rest := skipBlank rest | throw .unlike
    let (tree, rest) ← readValue fuel rest
    match rest with
    | ',' :: rest => do
      let (entries, rest) ← readEntries fuel rest
      return ((name, tree) :: entries, rest)
    | '\x7d' :: rest => return ([(name, tree)], rest)
    | _ => throw .unlike

end

/-- What the text of a variable means, unless it is broken. -/
def variableTree? (text : String) : Option Tree :=
  let cs := text.toList
  match readValue (2 * cs.length + 2) cs with
  | .ok (tree, []) => some tree
  | .error .broken => none
  | _ => some (variableLeaf (.text text))

/-! ## Names -/

/-- Variables and their texts, in the order in which they were set. -/
abbrev Environment := List (String × String)

/-- Sets a variable; one that is set again keeps its position. -/
def setVariable (name text : String) : Environment → Environment
  | [] => [(name, text)]
  | (other, old) :: rest =>
    if other = name then (name, text) :: rest else (other, old) :: setVariable name text rest

/-- What names of variables for settings start with. -/
def variableStart : List Char :=
  "annogen_".toList

/-- The characters with a point in place of every two underscores. -/
def pointed : List Char → List Char
  | '_' :: '_' :: rest => '.' :: pointed rest
  | c :: rest => c :: pointed rest
  | [] => []

/-- The entry that a variable sets. -/
def variablePath? (name : String) : Option (List String) := do
  let cs := (Text.trimBlank name.toList).map Char.toLower
  guard (cs.take variableStart.length = variableStart)
  let parts := Text.split '.' (Text.trimBlank (pointed (cs.drop variableStart.length)))
  guard (parts.all (!·.isEmpty))
  return parts.map String.ofList

/-- The settings of the environment, unless the text of one is broken. -/
def ofEnvironment? (env : Environment) : Option Tree :=
  env.foldlM (fun tree (name, text) =>
    match variablePath? name with
    | some path => (variableTree? text).map fun value => tree.merge (nest .environment value path)
    | none => some tree) (.table .environment [])

end Registrar.Settings
