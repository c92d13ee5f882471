import Mathlib.Data.List.Basic
import Registrar.Path

/-!
# Where a path leads to

A path is a walk over the texts between its slashes: a name descends, `..` undoes the last descent,
and what names nothing stays. `Path.destination` is where the walk ends, told without components,
without a depth that counts and without cleaning. Main statements: `Path.cleanSteps_components`, the
steps that cleaning leaves are the steps to that destination, and `Destination.steps_injective`,
different destinations have different steps.
-/

namespace Registrar

/-- Where a walk stands, with the name it descended to last in front. -/
inductive Destination where
  /-- some names below the root -/
  | belowRoot (names : List String)
  /-- some levels above the start of a relative path, and some names below that level -/
  | belowStart (up : Nat) (names : List String)
  deriving DecidableEq, Repr

namespace Destination

/-- Goes down to a name. -/
def descend (name : String) : Destination → Destination
  | .belowRoot names => .belowRoot (name :: names)
  | .belowStart up names => .belowStart up (name :: names)

/-- Undoes the last descent. Where there is none, the root is not left, and any other walk goes one
more level above its start. -/
def ascend : Destination → Destination
  | .belowRoot names => .belowRoot names.tail
  | .belowStart up [] => .belowStart (up + 1) []
  | .belowStart up (_ :: names) => .belowStart up names

/-- Walks over one segment. -/
def walk (dest : Destination) (segment : String) : Destination :=
  if segment = "" ∨ segment = "." then dest
  else if segment = ".." then dest.ascend
  else dest.descend segment

end Destination

/-- Where a path leads to. -/
def Path.destination (p : Path) : Destination :=
  p.segments.foldl Destination.walk (if p.isAbsolute then .belowRoot [] else .belowStart 0 [])

/-! ## The steps to a destination -/

namespace Destination

open Registrar.Path (Component)

/-- The steps before the names. -/
def start : Destination → List Component
  | .belowRoot _ => [.root]
  | .belowStart up _ => List.replicate up .parent

/-- The names of a destination, the last one first. -/
def names : Destination → List String
  | .belowRoot names => names
  | .belowStart _ names => names

/-- The steps that lead to a destination. -/
def steps (dest : Destination) : List Component :=
  dest.start ++ dest.names.reverse.map .name

theorem steps_descend (dest : Destination) (name : String) :
    (dest.descend name).steps = dest.steps ++ [.name name] := by
  cases dest <;> simp [steps, descend, start, names]

theorem reverse_start (dest : Destination) : dest.start.reverse = dest.start := by
  cases dest with
  | belowRoot names => rfl
  | belowStart up names => exact List.reverse_replicate ..

/-- The name of a step that is one. -/
def nameOf? : Component → Option String
  | .name text => some text
  | _ => none

theorem filterMap_nameOf?_steps (dest : Destination) :
    dest.steps.filterMap nameOf? = dest.names.reverse := by
  have hstart : dest.start.filterMap nameOf? = [] := by
    cases dest with
    | belowRoot names => rfl
    | belowStart up names => exact List.filterMap_replicate_of_none rfl
  have hnames : nameOf? ∘ Component.name = some := rfl
  rw [steps, List.filterMap_append, hstart, List.nil_append, List.filterMap_map, hnames,
    List.filterMap_some]

theorem count_parent_steps (dest : Destination) :
    dest.steps.count .parent = dest.start.count .parent := by
  have hnames : Component.parent ∉ dest.names.reverse.map Component.name := by simp
  rw [steps, List.count_append, List.count_eq_zero_of_not_mem hnames, Nat.add_zero]

/-- Different destinations have different steps. -/
theorem steps_injective : Function.Injective steps := by
  intro dest other h
  have hnames : dest.names = other.names := by
    have hreverse := congrArg (List.filterMap nameOf?) h
    rw [filterMap_nameOf?_steps, filterMap_nameOf?_steps] at hreverse
    exact List.reverse_inj.mp hreverse
  have hroot : Component.root ∈ dest.steps ↔ Component.root ∈ other.steps := by rw [h]
  have hup : dest.start.count .parent = other.start.count .parent := by
    rw [← count_parent_steps, ← count_parent_steps, h]
  cases dest <;> cases other <;> simp_all [steps, start, names]

end Destination

/-! ## Cleaning is the walk -/

namespace Path

/-- What cleaning has kept are the steps to a destination, and the depth counts the names among
them. -/
structure Cleaned.StandsAt (c : Cleaned) (dest : Destination) : Prop where
  kept : c.kept = dest.names.map .name ++ dest.start
  depth : c.depth = dest.names.length

theorem Cleaned.StandsAt.reverse_kept {c : Cleaned} {dest : Destination} (h : c.StandsAt dest) :
    c.kept.reverse = dest.steps := by
  rw [h.kept, List.reverse_append, Destination.reverse_start, Destination.steps, List.map_reverse]

/-- A step of the loop walks over its segment. -/
theorem Cleaned.StandsAt.take {c : Cleaned} {dest : Destination} (h : c.StandsAt dest)
    {segment : String} (hidle : isIdle segment = false) :
    (c.take (componentOf segment)).StandsAt (dest.walk segment) := by
  obtain ⟨kept, depth⟩ := c
  obtain ⟨rfl, rfl⟩ := h
  have hstay : ¬(segment = "" ∨ segment = ".") := by simpa [isIdle] using hidle
  rw [Destination.walk, if_neg hstay, componentOf]
  by_cases hup : segment = ".."
  · rw [if_pos hup, if_pos hup]
    rcases dest with (_ | ⟨name, names⟩) | ⟨up, _ | ⟨name, names⟩⟩
    · exact ⟨rfl, rfl⟩
    · exact ⟨rfl, rfl⟩
    · -- nothing is left to undo, and without a root the step up is kept
      refine ⟨?_, ?_⟩ <;>
        simp [Cleaned.take, Destination.names, Destination.start, Destination.ascend,
          List.replicate_succ]
    · exact ⟨rfl, rfl⟩
  · rw [if_neg hup, if_neg hup]
    cases dest <;> exact ⟨rfl, rfl⟩

/-- The loop walks over all segments, of which it sees only those that name something. -/
theorem Cleaned.StandsAt.foldl {c : Cleaned} {dest : Destination} (h : c.StandsAt dest)
    (segments : List String) :
    (((segments.filter (!isIdle ·)).map componentOf).foldl Cleaned.take c).StandsAt
      (segments.foldl Destination.walk dest) := by
  induction segments generalizing c dest with
  | nil => exact h
  | cons segment segments ih =>
    rw [List.foldl_cons]
    cases hidle : isIdle segment with
    | true =>
      have hstay : segment = "" ∨ segment = "." := by simpa [isIdle] using hidle
      rw [List.filter_cons_of_neg (by simp [hidle]), Destination.walk, if_pos hstay]
      exact ih h
    | false =>
      rw [List.filter_cons_of_pos (by simp [hidle]), List.map_cons, List.foldl_cons]
      exact ih (h.take hidle)

/-- The steps that cleaning leaves lead where the path leads. -/
theorem cleanSteps_components (p : Path) : cleanSteps p.components = p.destination.steps := by
  have hstands : (p.components.foldl Cleaned.take ⟨[], 0⟩).StandsAt p.destination := by
    have hroot : Cleaned.StandsAt ⟨[.root], 0⟩ (.belowRoot []) := ⟨rfl, rfl⟩
    have hstart : Cleaned.StandsAt ⟨[], 0⟩ (.belowStart 0 []) := ⟨rfl, rfl⟩
    rw [components, destination]
    by_cases habsolute : p.isAbsolute = true
    · rw [if_pos habsolute, if_pos habsolute, List.foldl_cons]
      exact hroot.foldl p.segments
    · rw [if_neg habsolute, if_neg habsolute]
      split
      · -- the dot in front of a relative path is a step that stays
        exact hstart.foldl p.segments
      · exact hstart.foldl p.segments
  rw [cleanSteps, hstands.reverse_kept]

example : cleanSteps (components ⟨"./a//../../b/."⟩) = [.parent, .name "b"] := by
  decide

end Path

end Registrar
