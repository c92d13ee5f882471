import Registrar.Log.Pattern.Brackets
import Registrar.Text.Alphanumeric

/-!
# Regular expressions in filters

A filter may ask that the text of a field matches a regular expression. No field that a filter looks
at has a text, so nothing is ever matched here; but a filter with an expression that is none is no
filter. `isPattern` tells the two apart.

An expression is read part by part. While it is read, only the depth of each part is kept: an
expression that nests deeper than `maxDepth` is refused. Counts in braces are refused too, as a
closing brace never reaches an expression in a filter.
-/

namespace Registrar.Log.Pattern

/-! ## Groups -/

/-- Flags from behind a question mark: what they make of the modes, whether a colon ends them, and
the text behind them. `seen` holds the flags so far, the last one first. -/
def flags? (m : Modes) (off : Bool) (seen : List Char) :
    List Char → Option (Modes × Bool × List Char)
  | [] => none
  | ':' :: cs => if seen.head? = some '-' then none else some (m, true, cs)
  | ')' :: cs => if seen.isEmpty || seen.head? = some '-' then none else some (m, false, cs)
  | c :: cs =>
    if seen.contains c then none
    else if c = '-' then flags? m true (c :: seen) cs
    else if c = 'i' then flags? { m with anyCase := !off } off (c :: seen) cs
    else if c = 'u' then flags? { m with ascii := off } off (c :: seen) cs
    else if c = 'x' then flags? { m with spaced := !off } off (c :: seen) cs
    else if "msUR".contains c then flags? m off (c :: seen) cs
    else none

/-- Whether the character may start the name of a group. -/
def startsName (c : Char) : Bool :=
  c = '_' || Text.isAlphabetic c

/-- Whether the character may go on the name of a group. -/
def continuesName (c : Char) : Bool :=
  Text.isAlphanumeric c || "_.[]".contains c

/-- The name of a group, from behind its angle bracket. -/
def groupName? (cs : List Char) : Option (List Char × List Char) :=
  let name := cs.takeWhile (· != '>')
  match cs.drop name.length with
  | _ :: rest =>
    if name.head?.any startsName && name.all continuesName then some (name, rest) else none
  | [] => none

/-! ## Expressions -/

/-- A part of an expression. -/
structure Part where
  depth : Nat
  repeatable : Bool

/-- A group or a whole expression as far as it was read. -/
structure Branches where
  /-- how deep the alternatives before the last bar nest -/
  before : List Nat := []
  /-- the parts of the last alternative, the last one first -/
  parts : List Part := []

namespace Branches

/-- How deep the last alternative nests. -/
def lastDepth (b : Branches) : Nat :=
  rowDepth (b.parts.map (·.depth))

/-- How deep all of it nests. -/
def depth (b : Branches) : Nat :=
  rowDepth (b.lastDepth :: b.before)

/-- Adds a part. -/
def add (b : Branches) (part : Part) : Branches :=
  { b with parts := part :: b.parts }

/-- Goes on behind a bar. -/
def alternate (b : Branches) : Branches :=
  { before := b.lastDepth :: b.before, parts := [] }

/-- Repeats the last part. -/
def repeatLast? (b : Branches) : Option Branches :=
  match b.parts with
  | ⟨depth, true⟩ :: parts => some { b with parts := ⟨depth + 1, true⟩ :: parts }
  | _ => none

end Branches

/-- An expression as far as it was read. -/
structure Progress where
  modes : Modes := {}
  branches : Branches := {}
  /-- the groups around, the innermost first, with the modes to go back to -/
  outer : List (Modes × Branches) := []
  /-- the names of groups so far -/
  names : List (List Char) := []

namespace Progress

/-- Adds a part that can be repeated. -/
def add (p : Progress) (depth : Nat) : Progress :=
  { p with branches := p.branches.add ⟨depth, true⟩ }

/-- Opens a group with modes of its own. -/
def openGroup (p : Progress) (m : Modes) : Progress :=
  { p with modes := m, branches := {}, outer := (p.modes, p.branches) :: p.outer }

/-- Opens a group with a name, which no other group has. -/
def openNamed? (p : Progress) (cs : List Char) : Option (Progress × List Char) := do
  let (name, rest) ← groupName? cs
  if p.names.contains name then none
  else return ({ p.openGroup p.modes with names := name :: p.names }, rest)

/-- Closes the innermost group. -/
def closeGroup? (p : Progress) : Option Progress :=
  match p.outer with
  | [] => none
  | (modes, branches) :: outer =>
    some { p with
      modes := modes, outer := outer, branches := branches.add ⟨p.branches.depth + 1, true⟩ }

/-- Reads on behind an opening parenthesis. -/
def group? (p : Progress) (cs : List Char) : Option (Progress × List Char) :=
  match p.modes.skip cs with
  | '?' :: 'P' :: '<' :: cs => p.openNamed? cs
  | '?' :: '<' :: cs => p.openNamed? cs
  | '?' :: cs => do
    let (modes, hasColon, rest) ← flags? p.modes false [] cs
    if hasColon then return (p.openGroup modes, rest)
    else return ({ p with modes := modes, branches := p.branches.add ⟨0, false⟩ }, rest)
  | cs => some (p.openGroup p.modes, cs)

/-- Reads one part of an expression. -/
def step? (p : Progress) (c : Char) (cs : List Char) : Option (Progress × List Char) :=
  if c = '(' then p.group? cs
  else if c = ')' then p.closeGroup?.map fun p => (p, cs)
  else if c = '|' then some ({ p with branches := p.branches.alternate }, cs)
  else if c = '*' || c = '+' || c = '?' then
    p.branches.repeatLast?.map fun branches =>
      ({ p with branches := branches }, if cs.head? = some '?' then cs.tail else cs)
  else if c = '\x7b' then none
  else if c = '[' then (class? p.modes cs).map fun (depth, rest) => (p.add depth, rest)
  else if c = '.' then if p.modes.ascii then none else some (p.add 0, cs)
  else if c = '^' || c = '$' then some (p.add 0, cs)
  else if c = '\\' then do
    let (atom, rest) ← escape? p.modes cs
    if p.modes.allows atom then return (p.add 0, rest) else none
  else if p.modes.allows (.char c) then some (p.add 0, cs)
  else none

/-- Whether an expression may end here. -/
def isComplete (p : Progress) : Bool :=
  p.outer.isEmpty && p.branches.depth ≤ maxDepth

/-- Reads an expression to its end; the fuel bounds how many parts there are. -/
def finishes : Nat → Progress → List Char → Bool
  | 0, _, _ => false
  | fuel + 1, p, cs =>
    match p.modes.skip cs with
    | [] => p.isComplete
    | c :: cs =>
      match p.step? c cs with
      | some (p, rest) => finishes fuel p rest
      | none => false

end Progress

/-- Whether the text is a regular expression. -/
def isPattern (cs : List Char) : Bool :=
  Progress.finishes (cs.length + 1) {} cs

end Registrar.Log.Pattern
