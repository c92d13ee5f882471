import Registrar.Emission
import Registrar.Proofs.Files.Place
import Registrar.Proofs.Paths.Clean

/-!
# Paths below a base directory

Relative output paths are joined to a base directory only after their directories were cleaned and
told apart. Where such a path leads follows from where its directory leads and from the base alone
(`Destination.under`): names below the root stay, and every level above the start of a relative path
takes a name off the base. Main statement: `Location.clean_resolve_eq_iff`, two locations write to
one file exactly when their directories lead to one place under the base.
-/

namespace Registrar

/-- Two texts with a mark between them are cut apart there. -/
theorem Text.split_append {α : Type} [DecidableEq α] (mark : α) (cs rest : List α) :
    split mark (cs ++ mark :: rest) = split mark cs ++ split mark rest := by
  induction cs with
  | nil => simp [split]
  | cons c cs ih =>
    rw [List.cons_append, split, split, ih]
    split_ifs with hc
    · rfl
    · cases hpieces : split mark cs with
      | nil => exact absurd hpieces (split_ne_nil mark cs)
      | cons piece pieces => rfl

namespace Destination

/-- Where a destination lies when relative paths start below the root, with the names of that place
last one first. -/
def under (base : List String) : Destination → Destination
  | .belowRoot names => .belowRoot names
  | .belowStart up names => .belowRoot (names ++ base.drop up)

theorem under_descend (base : List String) (dest : Destination) (name : String) :
    (dest.descend name).under base = (dest.under base).descend name := by
  cases dest <;> rfl

theorem under_ascend (base : List String) (dest : Destination) :
    dest.ascend.under base = (dest.under base).ascend := by
  rcases dest with names | ⟨up, _ | ⟨name, names⟩⟩
  · rfl
  · simp [ascend, under]
  · rfl

theorem under_walk (base : List String) (dest : Destination) (segment : String) :
    (dest.walk segment).under base = (dest.under base).walk segment := by
  unfold walk
  split_ifs
  · rfl
  · exact under_ascend base dest
  · exact under_descend base dest segment

theorem under_foldl_walk (base : List String) (segments : List String) (dest : Destination) :
    (segments.foldl walk dest).under base = segments.foldl walk (dest.under base) := by
  induction segments generalizing dest with
  | nil => rfl
  | cons segment segments ih => rw [List.foldl_cons, List.foldl_cons, ih, under_walk]

theorem descend_injective (name : String) : Function.Injective (descend name) := by
  intro dest other h
  cases dest <;> cases other <;> simp_all [descend]

theorem under_of_belowRoot {base : List String} {dest : Destination}
    (h : ∃ names, dest = .belowRoot names) : dest.under base = dest := by
  obtain ⟨names, rfl⟩ := h
  rfl

/-- A walk from the root stays below it. -/
theorem exists_foldl_walk_belowRoot (segments names : List String) :
    ∃ later, segments.foldl walk (.belowRoot names) = .belowRoot later := by
  induction segments generalizing names with
  | nil => exact ⟨names, rfl⟩
  | cons segment segments ih =>
    rw [List.foldl_cons, walk]
    split_ifs
    · exact ih names
    · exact ih names.tail
    · exact ih (segment :: names)

end Destination

namespace Path

variable {p q : Path} {base : List String}

theorem exists_destination_of_isAbsolute (h : p.isAbsolute = true) :
    ∃ names, p.destination = .belowRoot names := by
  rw [destination, if_pos h]
  exact Destination.exists_foldl_walk_belowRoot p.segments []

theorem text_ne_of_isAbsolute (h : p.isAbsolute = true) : p.text ≠ "" := by
  intro hempty
  simp [isAbsolute, hempty] at h

theorem segments_append_slash (front rest : String) :
    segments ⟨front ++ "/" ++ rest⟩ = segments ⟨front⟩ ++ segments ⟨rest⟩ := by
  have htext : (front ++ "/" ++ rest).toList = front.toList ++ '/' :: rest.toList := by
    simp [String.toList_append]
  simp only [segments, htext, Text.split_append, List.map_append]

theorem isAbsolute_append_eq (hp : p.text ≠ "") (rest : String) :
    isAbsolute ⟨p.text ++ rest⟩ = p.isAbsolute := by
  have hhead : (p.text ++ rest).toList.head? = p.text.toList.head? := by
    rw [String.toList_append, List.head?_append_of_ne_nil]
    exact fun hnil => hp (String.toList_eq_nil_iff.mp hnil)
  simp only [isAbsolute, hhead]

theorem destination_of_isRelative (h : q.isAbsolute = false) :
    q.destination = q.segments.foldl Destination.walk (.belowStart 0 []) := by
  rw [destination, if_neg (by simp [h])]

/-- A relative path is walked from where the path that it is joined to leads. -/
theorem destination_join (p : Path) (hq : q.isAbsolute = false) :
    (p.join q).destination = q.segments.foldl Destination.walk p.destination := by
  by_cases hp : p.text = ""
  · -- nothing is joined to, and its walk goes nowhere
    obtain rfl : p = ⟨""⟩ := congrArg Path.mk hp
    rw [join, if_pos (by simp), destination_of_isRelative hq]
    rfl
  rw [join, if_neg (by simp [hq, hp])]
  split_ifs with hslash
  · obtain ⟨cs, hcs⟩ := List.getLast?_eq_some_iff.mp hslash
    have htext : p.text = String.ofList cs ++ "/" := by
      apply String.toList_injective
      simp [String.toList_append, hcs]
    have hsegments : p.segments = segments ⟨String.ofList cs⟩ ++ [""] := by
      have hempty := segments_append_slash (String.ofList cs) ""
      rw [← htext, String.append_empty] at hempty
      exact hempty
    rw [destination, destination, isAbsolute_append_eq hp, hsegments]
    conv => lhs; rw [htext, segments_append_slash]
    simp [Destination.walk]
  · rw [destination, destination, String.append_assoc, isAbsolute_append_eq hp,
      ← String.append_assoc, segments_append_slash, List.foldl_append]

end Path

/-- Where a path leads once it is resolved is told by where it leads and by the base. -/
theorem OutputSettings.destination_resolve {o : OutputSettings} {root : Path} {base : List String}
    (hroot : o.baseDir = some root) (hbase : root.destination = .belowRoot base) (p : Path) :
    (o.resolve p).destination = p.destination.under base := by
  rw [resolve, hroot]
  dsimp only
  cases hp : p.isAbsolute with
  | true =>
    rw [if_neg (by simp [Path.isRelative, hp])]
    exact (Destination.under_of_belowRoot (Path.exists_destination_of_isAbsolute hp)).symm
  | false =>
    rw [if_pos (by simp [Path.isRelative, hp]), Path.destination_join _ hp, hbase,
      Path.destination_of_isRelative hp, Destination.under_foldl_walk]
    rfl

theorem OutputSettings.isAbsolute_resolve {o : OutputSettings} {root : Path}
    (hroot : o.baseDir = some root) (habsolute : root.isAbsolute = true) (p : Path) :
    (o.resolve p).isAbsolute = true := by
  rw [resolve, hroot]
  dsimp only
  cases hp : p.isAbsolute with
  | true => rwa [if_neg (by simp [Path.isRelative, hp])]
  | false =>
    rw [if_pos (by simp [Path.isRelative, hp]), Path.join,
      if_neg (by simp [hp, Path.text_ne_of_isAbsolute habsolute])]
    have hne := Path.text_ne_of_isAbsolute habsolute
    split_ifs
    · rw [Path.isAbsolute_append_eq hne, habsolute]
    · rw [String.append_assoc, Path.isAbsolute_append_eq hne, habsolute]

/-- An absolute path names the same place in every tree, that which the names of its destination
lead to. -/
theorem FileTree.target_of_isAbsolute (t : FileTree) {p : Path} (h : p.isAbsolute = true) :
    t.target p = p.destination.names.reverse := by
  have hwalk : ∀ (segments names : List String),
      segments.foldl Place.step names.reverse =
        (segments.foldl Destination.walk (.belowRoot names)).names.reverse := by
    intro segments
    induction segments with
    | nil => exact fun names => rfl
    | cons segment segments ih =>
      intro names
      rw [List.foldl_cons, List.foldl_cons, Destination.walk, Place.step]
      by_cases hidle : segment = "" ∨ segment = "."
      · rw [if_pos hidle, if_pos (by simpa [Path.isIdle] using hidle)]
        exact ih names
      · rw [if_neg hidle, if_neg (by simpa [Path.isIdle] using hidle)]
        by_cases hup : segment = ".."
        · rw [if_pos hup, if_pos hup, List.dropLast_reverse]
          exact ih names.tail
        · rw [if_neg hup, if_neg hup, ← List.reverse_cons]
          exact ih (segment :: names)
  rw [target, origin, if_pos h, Path.destination, if_pos h]
  exact hwalk p.segments []

/-! ## Cleaned paths -/

namespace Path

theorem components_clean (p : Path) : p.clean.components = p.destination.steps := by
  rw [clean, cleanSteps_components]
  exact components_ofComponents (grounded_steps p.isName_of_mem_destination)

/-- Paths clean to one path exactly when they lead to one place. -/
theorem clean_eq_iff {p q : Path} : p.clean = q.clean ↔ p.destination = q.destination := by
  constructor
  · intro h
    apply Destination.steps_injective
    rw [← components_clean, ← components_clean, h]
  · intro h
    rw [clean, clean, cleanSteps_components, cleanSteps_components, h]

theorem Cleaned.StandsAt.descend {c : Cleaned} {dest : Destination} (h : c.StandsAt dest)
    (text : String) : (c.take (.name text)).StandsAt (dest.descend text) := by
  obtain ⟨kept, depth⟩ := c
  obtain ⟨rfl, rfl⟩ := h
  cases dest <;> exact ⟨rfl, rfl⟩

theorem standsAt_start (up : Nat) :
    ((List.replicate up Component.parent).foldl Cleaned.take ⟨[], 0⟩).StandsAt
      (.belowStart up []) := by
  induction up with
  | zero => exact ⟨rfl, rfl⟩
  | succ up ih =>
    rw [List.replicate_succ', List.foldl_append]
    revert ih
    generalize (List.replicate up Component.parent).foldl Cleaned.take ⟨[], 0⟩ = c
    rintro ⟨hkept, hdepth⟩
    have hroot : Component.root ∉ c.kept := by simp [hkept, Destination.names, Destination.start]
    refine ⟨?_, ?_⟩ <;>
      simp_all [Cleaned.take, Destination.names, Destination.start, List.replicate_succ]

/-- The steps to a destination have nothing left to clean. -/
theorem standsAt_steps (dest : Destination) :
    (dest.steps.foldl Cleaned.take ⟨[], 0⟩).StandsAt dest := by
  have hdescend : ∀ (dest : Destination) (name : String),
      (dest.steps.foldl Cleaned.take ⟨[], 0⟩).StandsAt dest →
        ((dest.descend name).steps.foldl Cleaned.take ⟨[], 0⟩).StandsAt (dest.descend name) := by
    intro dest name h
    rw [Destination.steps_descend, List.foldl_append]
    exact h.descend name
  rcases dest with names | ⟨up, names⟩
  · induction names with
    | nil => exact ⟨rfl, rfl⟩
    | cons name names ih => exact hdescend (.belowRoot names) name ih
  · induction names with
    | nil => simpa [Destination.steps, Destination.names, Destination.start] using standsAt_start up
    | cons name names ih => exact hdescend (.belowStart up names) name ih

/-- A path that takes the steps to a destination leads there. -/
theorem destination_of_components {p : Path} {dest : Destination}
    (h : p.components = dest.steps) : p.destination = dest := by
  apply Destination.steps_injective
  rw [← cleanSteps_components, h, cleanSteps, (standsAt_steps dest).reverse_kept]

end Path

/-! ## Generated files -/

section Locations

variable {o : OutputSettings} {root : Path} {base : List String} (hroot : o.baseDir = some root)
  (hbase : root.destination = .belowRoot base)

theorem Location.destination_outputPath (l : Location) :
    l.outputPath.destination = l.dir.destination.descend generatedFileName :=
  Path.destination_of_components (l.components_outputPath.trans l.outputSteps_eq)

include hroot hbase

/-- Two locations write to one file exactly when their directories lead to one place under the
base. -/
theorem Location.clean_resolve_eq_iff (l m : Location) :
    (o.resolve l.outputPath).clean = (o.resolve m.outputPath).clean ↔
      l.dir.destination.under base = m.dir.destination.under base := by
  rw [Path.clean_eq_iff, OutputSettings.destination_resolve hroot hbase,
    OutputSettings.destination_resolve hroot hbase, destination_outputPath,
    destination_outputPath, Destination.under_descend, Destination.under_descend]
  exact (Destination.descend_injective generatedFileName).eq_iff

end Locations

end Registrar
