import Registrar.Text.Split

/-!
# Paths

A path is text; what it names is the list of its components. Empty segments and inner `.` segments
name nothing, a leading `/` is the root, and a leading `.` of a relative path stays a component of
its own. Paths compare by their components, so `a//x` and `a/x` are one place in every order, and
`a/x` comes before `a-b/x`.

`Path.clean` resolves `.` and `..` without looking at any file: a name is undone by a later `..`,
`..` at the root stays there, and `..` above the start of a relative path is kept.
-/

namespace Registrar

/-- A path as it is written. -/
structure Path where
  text : String
  deriving DecidableEq, Repr, Inhabited

namespace Path

/-- One step of a path. -/
inductive Component where
  /-- the root directory -/
  | root
  /-- the directory a relative path starts in -/
  | current
  /-- the directory above -/
  | parent
  /-- an entry of the directory -/
  | name (text : String)
  deriving DecidableEq, Repr

/-- The component as it is written. -/
def Component.text : Component → String
  | .root => "/"
  | .current => "."
  | .parent => ".."
  | .name text => text

/-- The texts between the slashes. -/
def segments (p : Path) : List String :=
  (Text.split '/' p.text.toList).map String.ofList

/-- Whether the path starts at the root. -/
def isAbsolute (p : Path) : Bool :=
  p.text.toList.head? = some '/'

/-- Whether the path starts where the reader stands. -/
def isRelative (p : Path) : Bool :=
  !p.isAbsolute

/-- Whether a segment names nothing: it is empty or stays where it is. -/
def isIdle (segment : String) : Bool :=
  segment = "" || segment = "."

/-- The component of a segment that names something. -/
def componentOf (segment : String) : Component :=
  if segment = ".." then .parent else .name segment

/-- The steps the path takes. -/
def components (p : Path) : List Component :=
  let steps := (p.segments.filter (!isIdle ·)).map componentOf
  if p.isAbsolute then .root :: steps
  else if p.segments.head? = some "." then .current :: steps
  else steps

/-! ## Order -/

/-- Where a component stands among its siblings: the special ones first, names by their
characters. -/
def Component.rank : Component → List Nat
  | .root => [0]
  | .current => [1]
  | .parent => [2]
  | .name text => 3 :: text.toList.map Char.toNat

/-- The key by which paths are ordered. -/
def rank (p : Path) : List (List Nat) :=
  p.components.map Component.rank

/-- The order of two paths, component by component. -/
def order (p q : Path) : Ordering :=
  compare p.rank q.rank

/-- Two spellings stand at one place of the order exactly when they take the same steps. -/
theorem order_eq_iff {p q : Path} : p.order q = .eq ↔ p.rank = q.rank := by
  unfold Path.order
  exact Std.compare_eq_iff_eq

/-! ## Building paths -/

/-- The path of `q` seen from `p`: an absolute `q` stands alone. -/
def join (p q : Path) : Path :=
  if q.isAbsolute || p.text = "" then q
  else if p.text.toList.getLast? = some '/' then ⟨p.text ++ q.text⟩
  else ⟨p.text ++ "/" ++ q.text⟩

/-- Segments with slashes between them. -/
def joinSegments (segments : List String) : String :=
  "/".intercalate segments

/-- The path that takes the given steps, of which only the first may be the root. -/
def ofComponents : List Component → Path
  | .root :: steps => ⟨"/" ++ joinSegments (steps.map Component.text)⟩
  | steps => ⟨joinSegments (steps.map Component.text)⟩

/-! ## Cleaning -/

/-- Steps kept so far, the last one first, and how many of them may still be undone. -/
structure Cleaned where
  kept : List Component
  depth : Nat

/-- Takes one more step. -/
def Cleaned.take (c : Cleaned) : Component → Cleaned
  | .current => c
  | .parent =>
    if 0 < c.depth then ⟨c.kept.tail, c.depth - 1⟩
    else if c.kept.contains .root then c
    else ⟨.parent :: c.kept, c.depth⟩
  | .name text => ⟨.name text :: c.kept, c.depth + 1⟩
  | .root => ⟨[.root], c.depth⟩

/-- The steps left when every `.` and every `..` that can be resolved is gone. -/
def cleanSteps (steps : List Component) : List Component :=
  (steps.foldl Cleaned.take ⟨[], 0⟩).kept.reverse

/-- The path without `.`, and with `..` resolved as far as that goes. -/
def clean (p : Path) : Path :=
  ofComponents (cleanSteps p.components)

/-! ## Parts -/

/-- The last component, when it is a name. -/
def fileName (p : Path) : Option String :=
  match p.components.getLast? with
  | some (.name text) => some text
  | _ => none

/-- The last component, or the whole text where there is none; the empty path is `.`. -/
def baseName (p : Path) : String :=
  match p.fileName with
  | some name => name
  | none => if p.text = "" then "." else p.text

/-- What follows the last dot of the file name, unless that dot opens the name. -/
def extension (p : Path) : Option String := do
  let pieces := Text.split '.' (← p.fileName).toList
  if pieces.length < 2 || Text.join '.' pieces.dropLast = [] then none
  else pieces.getLast?.map String.ofList

/-- Drops idle segments from the end. -/
def dropIdleEnd (segments : List String) : List String :=
  (segments.reverse.dropWhile isIdle).reverse

/-- The segments before the last one that names something. -/
def segmentsBefore? (segments : List String) : Option (List String) :=
  match dropIdleEnd segments with
  | [] => none
  | kept => some (dropIdleEnd kept.dropLast)

/-- The path without its last component; the root and the empty path have no parent. -/
def parent (p : Path) : Option Path :=
  if p.isAbsolute then
    (segmentsBefore? p.segments.tail).map fun kept => ⟨"/" ++ joinSegments kept⟩
  else if p.segments.head? = some "." then
    match segmentsBefore? p.segments.tail with
    | some kept => some ⟨joinSegments ("." :: kept)⟩
    | none => some ⟨""⟩
  else (segmentsBefore? p.segments).map fun kept => ⟨joinSegments kept⟩

end Path

end Registrar
