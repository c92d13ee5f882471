import Registrar.Log.Pattern.Escape

/-!
# Classes of characters in brackets

A class in a regular expression lists its members between brackets: characters, ranges of them,
classes by name, and classes in brackets of their own. Two ampersands, dashes or tildes between
members join what stands before them and what follows by an operation on sets. A circumflex at the
front makes the complement.

The dashes at the front of a class stand for themselves, and so does a closing bracket there; so no
class is written without members, but an operation may have none on either side.
-/

namespace Registrar.Log.Pattern

/-! ## Members -/

/-- The names of classes of characters, between brackets and colons. -/
def classNames : List String :=
  ["alnum", "alpha", "ascii", "blank", "cntrl", "digit", "graph", "lower", "print", "punct",
    "space", "upper", "word", "xdigit"]

/-- A class given by name, from behind its bracket, and whether its complement is meant. -/
def namedClass? : List Char → Option (Bool × List Char)
  | ':' :: cs =>
    let (complement, cs) := match cs with
      | '^' :: cs => (true, cs)
      | cs => (false, cs)
    let name := cs.takeWhile (· != ':')
    match cs.drop name.length with
    | ':' :: ']' :: rest =>
      if classNames.contains (String.ofList name) then some (complement, rest) else none
    | _ => none
  | _ => none

/-- A member of a class. -/
def member? (m : Modes) : List Char → Option (Atom × List Char)
  | [] => none
  | '\\' :: cs => do
    let (atom, cs) ← escape? m cs
    if m.allowsInClass atom then return (atom, cs) else none
  | c :: cs => if m.allowsInClass (.char c) then some (.char c, cs) else none

/-- The end of a range that starts at an atom, when a dash between members follows it. -/
def range? (m : Modes) (first : Atom) (cs : List Char) : Option (List Char) :=
  match m.skip cs with
  | '-' :: rest =>
    let next := m.behindDash? rest
    if next = some ']' || next = some '-' then some ('-' :: rest)
    else do
      let (last, rest) ← member? m (m.skip rest)
      if (← first.point?) ≤ (← last.point?) then return rest else none
  | rest => some rest

/-! ## Nested classes -/

/-- A class as far as it was read. -/
structure Brackets where
  /-- how deep the members nest, up to the last operator -/
  before : Option Nat := none
  /-- how deep each member behind it nests -/
  members : List Nat := []
  /-- whether only dashes were read -/
  isFresh : Bool := true

namespace Brackets

/-- How deep the class nests, its brackets not counted. -/
def depth (b : Brackets) : Nat :=
  match b.before with
  | none => rowDepth b.members
  | some before => max before (rowDepth b.members) + 1

/-- Adds a member. -/
def add (b : Brackets) (depth : Nat) : Brackets :=
  { b with members := depth :: b.members, isFresh := false }

/-- Goes on behind an operator. -/
def operate (b : Brackets) : Brackets :=
  { before := some b.depth, members := [], isFresh := false }

end Brackets

/-- What follows an opening bracket: a circumflex may. -/
def openBracket? (m : Modes) (cs : List Char) : Option (List Char) :=
  match m.skip cs with
  | '^' :: rest => if m.ascii then none else some rest
  | rest => some rest

/-- Whether two equal characters are an operator. -/
def isOperator (c d : Char) : Bool :=
  c = d && (c = '&' || c = '-' || c = '~')

/-- What reading one part of a class gives. -/
inductive Advance where
  /-- the class goes on; the classes around it follow it -/
  | reading (b : Brackets) (outer : List Brackets)
  /-- the class is closed -/
  | closed (depth : Nat)

/-- Reads one part of a class. -/
def advance? (m : Modes) (b : Brackets) (outer : List Brackets) (c : Char) (cs : List Char) :
    Option (Advance × List Char) :=
  if b.isFresh && (c = '-' || (c = ']' && b.members.isEmpty)) then
    if m.allowsInClass (.char c) then
      some (.reading { b.add 0 with isFresh := c = '-' } outer, cs)
    else none
  else if c = '[' then
    match namedClass? cs with
    | some (complement, rest) =>
      if m.needsCases || (complement && m.ascii) then none
      else some (.reading (b.add 0) outer, rest)
    | none => do return (.reading {} (b :: outer), ← openBracket? m cs)
  else if c = ']' then
    match outer with
    | [] => some (.closed (b.depth + 1), cs)
    | o :: outer => some (.reading (o.add (b.depth + 1)) outer, cs)
  else if cs.head?.any (isOperator c) then some (.reading b.operate outer, cs.tail)
  else do
    let (first, rest) ← member? m (c :: cs)
    return (.reading (b.add 0) outer, ← range? m first rest)

/-- Reads a class to its end, and gives its depth; the fuel bounds how many parts there are. -/
def closeBrackets? (m : Modes) : Nat → Brackets → List Brackets → List Char →
    Option (Nat × List Char)
  | 0, _, _, _ => none
  | fuel + 1, b, outer, cs =>
    match m.skip cs with
    | [] => none
    | c :: cs =>
      match advance? m b outer c cs with
      | none => none
      | some (.closed depth, rest) => some (depth, rest)
      | some (.reading b outer, rest) => closeBrackets? m fuel b outer rest

/-- Reads a class from behind its opening bracket, and gives its depth. -/
def class? (m : Modes) (cs : List Char) : Option (Nat × List Char) := do
  let rest ← openBracket? m cs
  closeBrackets? m (rest.length + 1) {} [] rest

end Registrar.Log.Pattern
