import Mathlib.Data.List.Induction
import Registrar.Proofs.Files.Growth

/-!
# Trees whose entries lie in directories

A tree is read from its root, so an entry counts only when all places before it are directories.
`FileTree.Rooted` says so of every entry, and every change keeps it (`Rooted.modify`,
`Rooted.makeDirectory`). In such a tree a path without `..` leads to every entry that it names, and
a file that can be read in a grown tree could be read before, unless it was given content
(`Grows.read_back`).
-/

namespace Registrar

open Text (Bytes)

namespace FileTree

variable {t u : FileTree} {files : List Place} {p : Path} {place next q : Place}
  {segment : String} {segments : List String} {content : Bytes} {node : Node}

/-- Every entry lies in a directory. -/
def Rooted (t : FileTree) : Prop :=
  ∀ entry ∈ t.entries, t.node? entry.1.dropLast = some .directory

instance (t : FileTree) : Decidable t.Rooted :=
  inferInstanceAs (Decidable (∀ entry ∈ t.entries, t.node? entry.1.dropLast = some .directory))

theorem Rooted.dropLast (ht : t.Rooted) (hnode : t.node? place = some node) :
    t.node? place.dropLast = some .directory := by
  unfold node? at hnode
  split_ifs at hnode with hroot
  · rw [hroot]
    rfl
  · obtain ⟨before, after, hentries, -⟩ := List.lookup_eq_some_iff.mp hnode
    exact ht (place, node) (by simp [hentries])

/-- All places on the way to an entry are directories. -/
theorem Rooted.before (ht : t.Rooted) (hnode : t.node? place = some node) (hq : q <+: place)
    (hne : q ≠ place) : t.node? q = some .directory := by
  induction place using List.reverseRecOn generalizing node with
  | nil => exact absurd (List.prefix_nil.mp hq) hne
  | append_singleton front name ih =>
    have hfront : t.node? front = some .directory := by
      simpa using ht.dropLast hnode
    rcases List.prefix_concat_iff.mp hq with heq | hq
    · exact absurd heq hne
    · by_cases heq : q = front
      · rw [heq]
        exact hfront
      · exact ih hfront hq heq

/-! ## Changes -/

theorem Rooted.enter (ht : t.Rooted) (henter : t.enter place segment = .ok next) :
    t.node? next.dropLast = some .directory := by
  obtain ⟨hplace, -, rfl⟩ := enter_eq_ok_iff.mp henter
  unfold Place.step
  split_ifs
  · exact ht.dropLast hplace
  · exact ht.dropLast (ht.dropLast hplace)
  · simpa using hplace

/-- Directories stay when an entry is put where none is. -/
theorem Rooted.put (ht : t.Rooted) (hplace : t.node? place.dropLast = some .directory)
    (hdirectory : t.node? place ≠ some .directory) : (t.put place node).Rooted := by
  have hsame : ∀ q, t.node? q = some .directory → (t.put place node).node? q = some .directory := by
    intro q hq
    rw [node?_put]
    split_ifs with hroot heq
    · rfl
    · exact absurd (heq ▸ hq) hdirectory
    · exact hq
  intro entry hentry
  rcases List.mem_append.mp hentry with hold | hnew
  · exact hsame _ (ht entry (List.mem_of_mem_filter hold))
  · obtain rfl := List.mem_singleton.mp hnew
    exact hsame _ hplace

theorem Rooted.modify {change : Bytes → Bytes} (ht : t.Rooted) (h : t.modify p change = .ok u) :
    u.Rooted := by
  obtain ⟨-, ⟨place, segment, henter⟩, old, rfl, hnode⟩ := modify_eq_ok h
  refine ht.put (ht.enter henter) ?_
  rcases hnode with hnode | ⟨hnode, -⟩ <;> simp [hnode]

theorem Rooted.makeDirectory (ht : t.Rooted) (h : t.makeDirectory p = .ok u) : u.Rooted := by
  obtain ⟨⟨place, segment, henter⟩, rfl, hnode⟩ := makeDirectory_eq_ok h
  exact ht.put (ht.enter henter) (by simp [hnode])

/-! ## Paths that do not go up -/

theorem foldl_step_prefix (hup : ".." ∉ segments) (place : Place) :
    place <+: segments.foldl Place.step place := by
  induction segments generalizing place with
  | nil => exact List.prefix_refl place
  | cons segment segments ih =>
    rw [List.mem_cons, not_or] at hup
    obtain ⟨hsegment, hsegments⟩ := hup
    refine List.IsPrefix.trans ?_ (ih hsegments (place.step segment))
    unfold Place.step
    split_ifs with hidle heq
    · exact List.prefix_refl place
    · exact absurd heq.symm hsegment
    · exact List.prefix_append place [segment]

/-- Segments that lead to a file of one tree lead to the file of a rooted tree at that place. -/
theorem Rooted.walk_back {new : Bytes} (ht : t.Rooted) (hup : ".." ∉ segments)
    (hnode : t.node? next = some (.file content)) (hnew : u.node? next = some (.file new))
    (hwalk : u.walk place segments = .ok next) : t.walk place segments = .ok next := by
  induction segments generalizing place with
  | nil => exact hwalk
  | cons segment segments ih =>
    have hprefix : place <+: next := by
      rw [← foldl_step_of_walk hwalk]
      exact foldl_step_prefix hup place
    rw [walk_cons] at hwalk ⊢
    obtain ⟨middle, henter, hrest⟩ := bind_eq_ok_iff.mp hwalk
    obtain ⟨hplace, hstep⟩ := enter_eq_ok_iff.mp henter
    -- a segment is taken from a directory, so the place stands before the file and not at it
    have hne : place ≠ next := by
      rintro rfl
      rw [hnew] at hplace
      cases hplace
    have hrestUp : ".." ∉ segments := fun hmem => hup (List.mem_cons_of_mem _ hmem)
    refine bind_eq_ok_iff.mpr ⟨middle, ?_, ih hrestUp hrest⟩
    exact enter_eq_ok_iff.mpr ⟨ht.before hnode hprefix hne, hstep⟩

theorem not_mem_segments (hup : .parent ∉ p.components) : ".." ∉ p.segments := by
  intro hmem
  have hstep : Path.Component.parent ∈ (p.segments.filter (!Path.isIdle ·)).map Path.componentOf :=
    List.mem_map.mpr ⟨"..", List.mem_filter.mpr ⟨hmem, rfl⟩, rfl⟩
  refine hup ?_
  unfold Path.components
  dsimp only
  split_ifs
  · exact List.mem_cons_of_mem _ hstep
  · exact List.mem_cons_of_mem _ hstep
  · exact hstep

/-- A file that can be read after a tree has grown, and was given no content, could be read
before. -/
theorem Grows.read_back (h : Grows files t u) (ht : t.Rooted) (hup : .parent ∉ p.components)
    (hfiles : t.target p ∉ files) (hok : u.read p = .ok content) : t.read p = .ok content := by
  obtain ⟨hlocate, hnew⟩ := read_eq_ok_iff.mp hok
  rw [h.target p] at hlocate hnew
  obtain ⟨hrefuse, hwalk⟩ := locate_eq_ok_iff.mp hlocate
  rw [h.origin p] at hwalk
  -- what is not given content can neither come into being nor change
  have hnode : t.node? (t.target p) = some (.file content) := by
    cases hold : t.node? (t.target p) with
    | none =>
      rcases h.absent hfiles hold with hlater | hlater <;>
      · rw [hlater] at hnew
        cases hnew
    | some node =>
      cases node with
      | file old => rw [← hnew, h.kept hfiles hold]
      | directory =>
        rw [h.directory hold] at hnew
        cases hnew
  exact read_eq_ok_iff.mpr
    ⟨locate_eq_ok_iff.mpr ⟨hrefuse, ht.walk_back (not_mem_segments hup) hnode hnew hwalk⟩, hnode⟩

end FileTree

end Registrar
