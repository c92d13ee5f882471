import Mathlib.Data.List.Basic
import Mathlib.Data.List.TakeWhile
import Mathlib.Tactic.SplitIfs
import Registrar.FileTree
import Registrar.Proofs.Result

/-!
# Where a path leads in a tree

A tree has no links, so the segments of a path alone say which place it names
(`FileTree.target`), and following the path can only fail or lead there. The path of a file that is
written, and of a directory that is made, names the place that changes. Main statements:
`target_of_locate`, `modify_eq_ok` and `makeDirectory_eq_ok`.
-/

namespace Registrar

open Text (Bytes)

/-- Text whose last piece is empty ends with the mark, or it is empty. -/
theorem Text.getLast?_of_split {mark : Char} {cs : List Char}
    (h : (split mark cs).getLast? = some []) : cs = [] ∨ cs.getLast? = some mark := by
  obtain ⟨front, hfront⟩ := List.getLast?_eq_some_iff.mp h
  rw [← join_split mark cs, hfront]
  clear h hfront
  induction front with
  | nil => exact .inl rfl
  | cons piece front ih =>
    right
    have hjoin : join mark (piece :: front ++ [[]]) =
        piece ++ mark :: join mark (front ++ [[]]) := by
      cases front <;> rfl
    rw [hjoin, List.getLast?_append_cons]
    rcases ih with hnil | hlast
    · simp [hnil]
    · simp [List.getLast?_cons, hlast]

/-- The place that a segment leads to, whatever is there. -/
def Place.step (place : Place) (segment : String) : Place :=
  if Path.isIdle segment then place
  else if segment = ".." then place.dropLast
  else place ++ [segment]

namespace FileTree

variable {t u : FileTree} {p : Path} {place next : Place} {segment : String}
  {segments : List String} {content : Bytes}

/-- The place that a path names, whether or not anything is there. -/
def target (t : FileTree) (p : Path) : Place :=
  p.segments.foldl Place.step (t.origin p)

/-- A segment that can be taken: it is special, or no longer than a name may be. -/
def Fits (segment : String) : Prop :=
  Path.isIdle segment = true ∨ segment = ".." ∨ segment.utf8ByteSize ≤ maxName

theorem enter_eq_ok_iff : t.enter place segment = .ok next ↔
    t.node? place = some .directory ∧ Fits segment ∧ place.step segment = next := by
  unfold enter Fits Place.step
  cases t.node? place with
  | none => simp
  | some node =>
    cases node with
    | file content => simp
    | directory =>
      split_ifs with hidle hup hlong
      · simp [hidle]
      · simp [hup]
      · simp [hidle, hup]
        omega
      · simp [hidle, hup]
        omega

theorem walk_cons : t.walk place (segment :: segments) =
    (t.enter place segment >>= fun next => t.walk next segments) :=
  List.foldlM_cons

theorem walk_concat : t.walk place (segments ++ [segment]) =
    (t.walk place segments >>= fun next => t.enter next segment) := by
  simp [walk, List.foldlM_append]

/-- Segments lead where they say. -/
theorem foldl_step_of_walk (h : t.walk place segments = .ok next) :
    segments.foldl Place.step place = next := by
  induction segments generalizing place with
  | nil => exact Except.ok.inj h
  | cons segment segments ih =>
    rw [walk_cons] at h
    obtain ⟨middle, henter, hwalk⟩ := bind_eq_ok_iff.mp h
    obtain ⟨-, -, rfl⟩ := enter_eq_ok_iff.mp henter
    exact ih hwalk

theorem locate_eq_ok_iff : t.locate p = .ok place ↔
    refuse? p = none ∧ t.walk (t.origin p) p.segments = .ok place := by
  unfold locate
  cases refuse? p <;> simp

/-- A path leads nowhere but to the place that it names. -/
theorem target_of_locate (h : t.locate p = .ok place) : t.target p = place :=
  foldl_step_of_walk (locate_eq_ok_iff.mp h).2

/-! ## Reading -/

theorem find?_eq_ok_iff {node : Node} : t.find? p = .ok node ↔
    t.locate p = .ok (t.target p) ∧ t.node? (t.target p) = some node := by
  rw [find?, bind_eq_ok_iff]
  constructor
  · rintro ⟨place, hlocate, hnode⟩
    obtain rfl := target_of_locate hlocate
    refine ⟨hlocate, ?_⟩
    cases hat : t.node? (t.target p) with
    | none => simp [hat] at hnode
    | some found =>
      rw [hat] at hnode
      rw [Except.ok.inj hnode]
  · rintro ⟨hlocate, hnode⟩
    refine ⟨_, hlocate, ?_⟩
    rw [hnode]
    rfl

theorem read_eq_ok_iff : t.read p = .ok content ↔
    t.locate p = .ok (t.target p) ∧ t.node? (t.target p) = some (.file content) := by
  rw [← find?_eq_ok_iff, read, bind_eq_ok_iff]
  constructor
  · rintro ⟨node, hfind, hcontent⟩
    cases node with
    | file old =>
      obtain rfl : old = content := Except.ok.inj hcontent
      exact hfind
    | directory => cases hcontent
  · intro hfind
    exact ⟨_, hfind, rfl⟩

/-! ## The last segment -/

theorem step_idle (h : Path.isIdle segment = true) (place : Place) : place.step segment = place :=
  if_pos h

theorem foldl_step_idle {blanks : List String} (h : ∀ s ∈ blanks, s = "") (place : Place) :
    blanks.foldl Place.step place = place := by
  induction blanks generalizing place with
  | nil => rfl
  | cons s blanks ih =>
    obtain ⟨rfl, hblanks⟩ := List.forall_mem_cons.mp h
    rw [List.foldl_cons, step_idle rfl]
    exact ih hblanks place

/-- The segments without the slashes at the end. -/
def trimmed (segments : List String) : List String :=
  (segments.reverse.dropWhile (· = "")).reverse

theorem exists_trimmed_append (segments : List String) :
    ∃ blanks, (∀ s ∈ blanks, s = "") ∧ segments = trimmed segments ++ blanks := by
  refine ⟨(segments.reverse.takeWhile (· = "")).reverse, ?_, ?_⟩
  · intro s hs
    simpa using List.mem_takeWhile_imp (List.mem_reverse.mp hs)
  · rw [trimmed, ← List.reverse_append, List.takeWhile_append_dropWhile, List.reverse_reverse]

theorem foldl_step_trimmed (segments : List String) (place : Place) :
    (trimmed segments).foldl Place.step place = segments.foldl Place.step place := by
  obtain ⟨blanks, hblanks, hsegments⟩ := exists_trimmed_append segments
  conv => rhs; rw [hsegments]
  rw [List.foldl_append, foldl_step_idle hblanks]

/-- A path is looked up in the directory that all its segments but the last one lead to. -/
theorem locateParent_eq_ok {last : Option String} (h : t.locateParent p = .ok (place, last)) :
    refuse? p = none ∧ t.walk (t.origin p) (trimmed p.segments).dropLast = .ok place ∧
      last = (trimmed p.segments).getLast? := by
  unfold locateParent at h
  cases hrefuse : refuse? p with
  | some reason => simp [hrefuse] at h
  | none =>
    simp only [hrefuse] at h
    obtain ⟨middle, hwalk, h⟩ := bind_eq_ok_iff.mp h
    obtain ⟨directory, henter, h⟩ := bind_eq_ok_iff.mp h
    obtain ⟨-, -, rfl⟩ := enter_eq_ok_iff.mp henter
    obtain ⟨rfl, rfl⟩ := Prod.mk.inj (Except.ok.inj h)
    exact ⟨rfl, hwalk, rfl⟩

/-- The last segment leads from the directory to the place that the path names. -/
theorem walk_trimmed {name : String} (h : t.locateParent p = .ok (place, some name))
    (henter : t.enter place name = .ok next) :
    t.walk (t.origin p) (trimmed p.segments) = .ok next ∧ t.target p = next := by
  obtain ⟨-, hwalk, hlast⟩ := locateParent_eq_ok h
  have htrimmed : trimmed p.segments = (trimmed p.segments).dropLast ++ [name] :=
    (List.dropLast_append_getLast? name hlast.symm).symm
  have hall : t.walk (t.origin p) (trimmed p.segments) = .ok next := by
    rw [htrimmed, walk_concat, hwalk]
    exact henter
  refine ⟨hall, ?_⟩
  rw [target, ← foldl_step_trimmed]
  exact foldl_step_of_walk hall

/-- A path that does not end at a slash is followed to its last segment. -/
theorem trimmed_segments (hempty : p.text ≠ "") (hslash : p.text.toList.getLast? ≠ some '/') :
    trimmed p.segments = p.segments := by
  have hlast : p.segments.getLast? ≠ some "" := by
    rw [Path.segments, List.getLast?_map]
    intro h
    obtain ⟨piece, hpiece, hnil⟩ := Option.map_eq_some_iff.mp h
    obtain rfl : piece = [] := by simpa using congrArg String.toList hnil
    rcases Text.getLast?_of_split hpiece with hchars | hchars
    · exact hempty (String.toList_eq_nil_iff.mp hchars)
    · exact hslash hchars
  rcases List.eq_nil_or_concat p.segments with hnil | ⟨front, last, hsegments⟩
  · rw [hnil]
    rfl
  · have hne : last ≠ "" := by
      intro hlast'
      exact hlast (by simp [hsegments, hlast'])
    simp [trimmed, hsegments, hne]

/-! ## Changes -/

/-- Writing to a path changes the file at the place that it names, which the path leads to from
some directory. -/
theorem modify_eq_ok {change : Bytes → Bytes} (h : t.modify p change = .ok u) :
    t.locate p = .ok (t.target p) ∧ (∃ place segment, t.enter place segment = .ok (t.target p)) ∧
      ∃ old, u = t.put (t.target p) (.file (change old)) ∧
        (t.node? (t.target p) = some (.file old) ∨ t.node? (t.target p) = none ∧ old = []) := by
  obtain ⟨⟨place, last⟩, hparent, h⟩ := bind_eq_ok_iff.mp h
  obtain ⟨hrefuse, -, -⟩ := locateParent_eq_ok hparent
  dsimp only at h
  split at h
  · cases h
  · cases h
  · cases h
  · next name _ _ =>
    split_ifs at h with hslash
    · cases h
    · obtain ⟨next, henter, h⟩ := bind_eq_ok_iff.mp h
      obtain ⟨hwalk, rfl⟩ := walk_trimmed hparent henter
      have hempty : p.text ≠ "" := by
        intro hempty
        simp [refuse?, hempty] at hrefuse
      -- without a slash at the end nothing is trimmed, so a reader walks the same segments
      rw [trimmed_segments hempty hslash] at hwalk
      refine ⟨locate_eq_ok_iff.mpr ⟨hrefuse, hwalk⟩, ⟨place, name, henter⟩, ?_⟩
      split at h
      · cases h
      · next old hold => exact ⟨old, (Except.ok.inj h).symm, .inl hold⟩
      · next hnone => exact ⟨[], (Except.ok.inj h).symm, .inr ⟨hnone, rfl⟩⟩

/-- Making a directory puts one where nothing is, at the place that its path names. -/
theorem makeDirectory_eq_ok (h : t.makeDirectory p = .ok u) :
    (∃ place segment, t.enter place segment = .ok (t.target p)) ∧
      u = t.put (t.target p) .directory ∧ t.node? (t.target p) = none := by
  obtain ⟨⟨place, last⟩, hparent, h⟩ := bind_eq_ok_iff.mp h
  dsimp only at h
  split at h
  · cases h
  · cases h
  · cases h
  · next name _ _ =>
    obtain ⟨next, henter, h⟩ := bind_eq_ok_iff.mp h
    obtain ⟨-, rfl⟩ := walk_trimmed hparent henter
    split at h
    · cases h
    · next hnone => exact ⟨⟨place, name, henter⟩, (Except.ok.inj h).symm, hnone⟩

end FileTree

end Registrar
