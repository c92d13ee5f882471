import Registrar.Log.Level
import Registrar.Log.Pattern
import Registrar.Text.Blank
import Registrar.Text.Cut
import Registrar.Text.Integer
import Registrar.Text.Split

/-!
# Directives of a log filter

A directive says how much detail the log shows of some part of the program. It is spelled

    target[span{field=value,field}]=level

where every piece may be left out: alone, a level is a level for everything, and a target, or what
stands in brackets, is shown in all detail.

A directive is looked at without the blanks at its ends, but its pieces are cut out of the text with
these blanks, at as many bytes from the front. Behind blanks in front, the pieces are therefore
other ones than they seem, and where such a cut falls inside a character the text is torn.
-/

namespace Registrar.Log

/-- The detail of a directive that gives none. The detail counts levels: none, errors only, and so
on up to all. -/
def fullDetail : Nat := Level.trace.detail

/-- Names of details, beside the names of levels. -/
def detailNames : List (String × Nat) :=
  ("off", 0) :: Level.all.map fun level => (level.name, level.detail)

/-- The detail that a text names, by a word in any case or by a number. -/
def detail? (cs : List Char) : Option Nat :=
  match Text.natural? cs with
  | some n => if n ≤ fullDetail then some n else none
  | none => detailNames.lookup (String.ofList (cs.map Char.toLower))

/-- What a directive asks a field to be. -/
inductive Wanted where
  | bool (value : Bool)
  | natural (value : Nat)
  | negative (value : Int)
  | float (value : Binary64)
  /-- a text that matches a regular expression -/
  | pattern (text : String)
  deriving DecidableEq, Repr

/-- A word for a number that has no digits. -/
def specialFloat? (cs : List Char) : Option Binary64 :=
  let (negative, cs) := Binary64.takeSign cs
  [("nan", .nan), ("inf", .infinite negative), ("infinity", .infinite negative)].lookup
    (String.ofList (cs.map Char.toLower))

/-- The number that a text spells; both zeros are the same. -/
def float? (cs : List Char) : Option Binary64 :=
  match (Binary64.ofChars? cs).or (specialFloat? cs) with
  | some (.finite true 0 exponent) => some (.finite false 0 exponent)
  | result => result

/-- What a text asks a field to be. -/
def Wanted.ofText? (cs : List Char) : Option Wanted :=
  if cs = "true".toList then some (.bool true)
  else if cs = "false".toList then some (.bool false)
  else
    match Text.natural? cs, Text.negative? cs, float? cs with
    | some n, _, _ => some (.natural n)
    | none, some n, _ => some (.negative n)
    | none, none, some x => some (.float x)
    | none, none, none =>
      if Pattern.isPattern cs then some (.pattern (String.ofList cs)) else none

/-- A field that a directive asks for, and what it is to be. -/
structure Demand where
  name : String
  value : Option Wanted
  deriving DecidableEq, Repr

/-- One rule of a filter. -/
structure Directive where
  /-- what the names of parts of the program start like -/
  target : Option String := none
  /-- the name of a span -/
  span : Option String := none
  demands : List Demand := []
  detail : Nat := fullDetail
  deriving DecidableEq, Repr

namespace Directive

/-! ## Reading -/

/-- Why a text is no directive. -/
inductive Refusal where
  /-- it is not spelled like one -/
  | malformed
  /-- a cut falls inside a character -/
  | torn
  deriving DecidableEq, Repr

/-- What reading a directive gives. -/
abbrev Reading := Except Refusal

/-- The piece of a text from one byte to another. -/
def piece (text : List Char) (first last : Nat) : Reading (List Char) := do
  let some (_, rest) := Text.cutAtByte? first text | throw .torn
  let some (inside, _) := Text.cutAtByte? (last - first) rest | throw .torn
  return inside

/-- The detail behind an equals sign; no text stands for all detail. -/
def readDetail (cs : List Char) : Reading Nat :=
  if cs.isEmpty then .ok fullDetail
  else
    match detail? cs with
    | some detail => .ok detail
    | none => .error .malformed

/-- A field with what it is to be behind an equals sign; what stands behind a second one does not
count. -/
def readDemand (cs : List Char) : Reading Demand :=
  if cs.isEmpty then .error .malformed
  else
    match Text.split '=' cs with
    | name :: value :: _ =>
      match Wanted.ofText? value with
      | some wanted => .ok ⟨String.ofList name, some wanted⟩
      | none => .error .malformed
    | name :: [] => .ok ⟨String.ofList name, none⟩
    | [] => .error .malformed

/-- What the reader of a directive stands in; pieces that are open are given by their first byte. -/
inductive Place where
  | start
  /-- a target, or a level alone -/
  | name (first : Nat)
  | span (first : Nat)
  | demand (first : Nat)
  /-- behind the fields -/
  | demands
  /-- behind the brackets -/
  | brackets
  | level (first : Nat)
  /-- behind a comma -/
  | done
  deriving DecidableEq, Repr

/-- Whether the character may open a target. -/
def opensTarget (c : Char) : Bool :=
  c = '-' || c = ':' || c = '_' || Text.isAlphanumeric c

/-- A level, or else a target. -/
def withName (d : Directive) (cs : List Char) : Directive :=
  if cs.isEmpty then d
  else
    match detail? cs with
    | some detail => { d with detail := detail }
    | none => { d with target := some (String.ofList cs) }

/-- Adds a field that is asked for. -/
def withDemand (d : Directive) (demand : Demand) : Directive :=
  { d with demands := d.demands ++ [demand] }

/-- Takes the character at a byte of a text. -/
def step (text : List Char) (d : Directive) (place : Place) (i : Nat) (c : Char) :
    Reading (Directive × Place) := do
  match place, c with
  | .start, '[' => return (d, .span (i + 1))
  | .start, c => if opensTarget c then return (d, .name i) else throw .malformed
  | .name first, '=' =>
    return ({ d with target := some (String.ofList (← piece text first i)) }, .level (i + 1))
  | .name first, '[' =>
    return ({ d with target := some (String.ofList (← piece text first i)) }, .span (i + 1))
  -- the name reaches to the end of the text, whatever stands behind the comma
  | .name first, ',' => return (d.withName (← piece text first (Text.byteCount text)), .done)
  | .name first, _ => return (d, .name first)
  | .span first, ']' =>
    return ({ d with span := some (String.ofList (← piece text first i)) }, .brackets)
  | .span first, '\x7b' => do
    let name ← piece text first i
    return (if name.isEmpty then d else { d with span := some (String.ofList name) },
      .demand (i + 1))
  | .span first, _ => return (d, .span first)
  | .demand first, '\x7d' =>
    return (d.withDemand (← readDemand (← piece text first i)), .demands)
  | .demand first, ',' =>
    return (d.withDemand (← readDemand (← piece text first i)), .demand (i + 1))
  | .demand first, _ => return (d, .demand first)
  | .demands, ']' => return (d, .brackets)
  | .demands, _ => throw .malformed
  | .brackets, '=' => return (d, .level (i + 1))
  | .brackets, _ => throw .malformed
  | .level first, ',' =>
    return ({ d with detail := ← readDetail (← piece text first i) }, .done)
  | .level first, _ => return (d, .level first)
  | .done, _ => throw .malformed

/-- Takes characters to the end, the first one being at a byte of the text. -/
def steps (text : List Char) (d : Directive) (place : Place) (i : Nat) :
    List Char → Reading (Directive × Place)
  | [] => return (d, place)
  | c :: cs => do
    let (d, place) ← step text d place i c
    steps text d place (i + c.utf8Size) cs

/-- What follows from the end of the text. -/
def close (text : List Char) (d : Directive) (place : Place) : Reading Directive := do
  match place with
  | .name first => return d.withName (← piece text first (Text.byteCount text))
  | .level first =>
    return { d with detail := ← readDetail (← piece text first (Text.byteCount text)) }
  | .brackets | .done => return d
  | .start | .span _ | .demand _ | .demands => throw .malformed

/-- The directive that a text spells. -/
def ofText (text : String) : Reading Directive := do
  let cs := text.toList
  let (d, place) ← steps cs {} .start 0 (Text.trimBlank cs)
  close cs d place

/-! ## Kinds of directives -/

/-- Whether the directive is about one record or span alone, and not about what goes on inside a
span. -/
def isPlain (d : Directive) : Bool :=
  d.span.isNone && d.demands.all (·.value.isNone)

/-- Whether the directive is about what goes on inside a span. -/
def isInner (d : Directive) : Bool :=
  d.span.isSome || !d.demands.isEmpty

/-- Whether two directives are about the same. -/
def sameSubject (a b : Directive) : Bool :=
  a.target = b.target && a.span = b.span && a.demands = b.demands

end Directive

end Registrar.Log
