import Mathlib.Data.List.DropRight
import Registrar.Proofs.Files.Growth
import Registrar.Proofs.Paths.Clean

/-!
# Changes confined to some paths

A write to a path may make the directories that the path runs through and may change the file that
it names, and has no business anywhere else. `FileTree.Confined` says so of a change to a tree: no
entry goes, only files that the paths name get another content, and what is new is such a file or a
directory on the way to one (`FileTree.OnWay`). The directories that a path lies in are beginnings
of the path (`Path.Begins`), so making them is confined to it (`Confined.of_makeDirectory`).
-/

namespace Registrar

open Text (Bytes)

/-! ## Beginnings of a path -/

/-- The first items of two lists in a row end within the first list or reach into the second. -/
theorem prefix_or_exists_of_prefix_append {α : Type} {front xs ys : List α}
    (h : front <+: xs ++ ys) : front <+: xs ∨ ∃ more, more <+: ys ∧ front = xs ++ more := by
  rcases List.prefix_or_prefix_of_prefix h (List.prefix_append xs ys) with hwithin | ⟨more, rfl⟩
  · exact .inl hwithin
  · exact .inr ⟨more, (List.prefix_append_right_inj xs).mp h, rfl⟩

namespace Path

variable {p q r : Path} {kept : List String}

/-- The path `q` takes the first segments of `p`, and blanks behind them. -/
structure Begins (q p : Path) : Prop where
  isAbsolute : q.isAbsolute = p.isAbsolute
  segments : ∃ front blanks, front <+: p.segments ∧ (∀ s ∈ blanks, s = "") ∧
    q.segments = front ++ blanks

theorem Begins.refl (p : Path) : p.Begins p :=
  ⟨rfl, p.segments, [], List.prefix_refl _, by simp, (List.append_nil _).symm⟩

theorem Begins.trans (h : r.Begins q) (h' : q.Begins p) : r.Begins p where
  isAbsolute := h.isAbsolute.trans h'.isAbsolute
  segments := by
    obtain ⟨front, blanks, hfront, hblanks, hr⟩ := h.segments
    obtain ⟨front', blanks', hfront', hblanks', hq⟩ := h'.segments
    rw [hq] at hfront
    rcases prefix_or_exists_of_prefix_append hfront with hfront | ⟨more, hmore, rfl⟩
    · exact ⟨front, blanks, hfront.trans hfront', hblanks, hr⟩
    · refine ⟨front', more ++ blanks, hfront', ?_, by rw [hr, List.append_assoc]⟩
      intro s hs
      rcases List.mem_append.mp hs with hs | hs
      · exact hblanks' s (hmore.subset hs)
      · exact hblanks s hs

/-- A path is absolute when nothing stands in front of its first slash. -/
theorem isAbsolute_iff_segments :
    p.isAbsolute = true ↔ ∃ rest, rest ≠ [] ∧ p.segments = "" :: rest := by
  obtain ⟨text⟩ := p
  rw [Path.isAbsolute, Path.segments]
  cases text.toList with
  | nil => simp [Text.split]
  | cons c cs =>
    by_cases hc : c = '/'
    · simp [hc, Text.split, Text.split_ne_nil]
    · cases hpieces : Text.split '/' cs with
      | nil => exact absurd hpieces (Text.split_ne_nil '/' cs)
      | cons piece pieces => simp [hc, Text.split, hpieces]

theorem exists_segments_joinSegments (h : ∀ piece ∈ kept, '/' ∉ piece.toList) :
    ∃ blanks, (∀ s ∈ blanks, s = "") ∧ Path.segments ⟨joinSegments kept⟩ = kept ++ blanks := by
  cases kept with
  | nil => exact ⟨[""], by simp, rfl⟩
  | cons piece kept =>
    exact ⟨[], by simp, by rw [segments_joinSegments (List.cons_ne_nil _ _) h, List.append_nil]⟩

theorem dropIdleEnd_begins (segments : List String) : dropIdleEnd segments <+: segments :=
  List.rdropWhile_prefix isIdle segments

theorem segmentsBefore?_begins {segments : List String} (h : segmentsBefore? segments = some kept) :
    kept <+: segments := by
  rw [segmentsBefore?] at h
  split at h
  · cases h
  · obtain rfl := Option.some.inj h
    exact (dropIdleEnd_begins _).trans
      ((List.dropLast_prefix _).trans (dropIdleEnd_begins segments))

/-- The first segments of a relative path make up a relative path. -/
theorem begins_joinSegments (hp : p.isAbsolute = false) (hkept : kept <+: p.segments) :
    Begins ⟨joinSegments kept⟩ p where
  isAbsolute := by
    rw [hp, ← Bool.not_eq_true, isAbsolute_iff_segments]
    rintro ⟨rest, hrest, hsegments⟩
    have hnone : kept ≠ [] := by
      rintro rfl
      obtain rfl : rest = [] := by simpa [joinSegments, segments, Text.split] using hsegments.symm
      exact hrest rfl
    rw [segments_joinSegments hnone fun _ hs => slash_not_mem_segments (hkept.subset hs)]
      at hsegments
    obtain ⟨more, hmore⟩ := hkept
    rw [hsegments] at hmore
    have habsolute : p.isAbsolute = true :=
      isAbsolute_iff_segments.mpr ⟨rest ++ more, by simp [hrest], hmore.symm⟩
    rw [hp] at habsolute
    cases habsolute
  segments := by
    obtain ⟨blanks, hblanks, hsegments⟩ := exists_segments_joinSegments fun _ hs =>
      slash_not_mem_segments (hkept.subset hs)
    exact ⟨kept, blanks, hkept, hblanks, hsegments⟩

/-- A path runs through the directory that it lies in. -/
theorem begins_of_parent (h : p.parent = some q) : q.Begins p := by
  rw [Path.parent] at h
  split at h
  · next hp =>
    obtain ⟨kept, hkept, rfl⟩ := Option.map_eq_some_iff.mp h
    have hkept := segmentsBefore?_begins hkept
    obtain ⟨rest, -, hsegments⟩ := isAbsolute_iff_segments.mp hp
    rw [hsegments, List.tail_cons] at hkept
    refine ⟨by rw [hp]; simp [Path.isAbsolute], ?_⟩
    obtain ⟨blanks, hblanks, hjoined⟩ := @exists_segments_joinSegments kept fun _ hs =>
      slash_not_mem_segments (p := p) (hsegments ▸ List.mem_cons_of_mem _ (hkept.subset hs))
    refine ⟨"" :: kept, blanks, ?_, hblanks, by rw [segments_slash_append, hjoined]; rfl⟩
    rw [hsegments]
    exact List.cons_prefix_cons.mpr ⟨rfl, hkept⟩
  · next hp =>
    have hp : p.isAbsolute = false := by simpa using hp
    split at h
    · next hdot =>
      have hsegments : p.segments = "." :: p.segments.tail :=
        (List.cons_head?_tail hdot).symm
      split at h
      · next kept hkept =>
        obtain rfl := Option.some.inj h
        refine begins_joinSegments hp ?_
        rw [hsegments]
        exact List.cons_prefix_cons.mpr ⟨rfl, segmentsBefore?_begins hkept⟩
      · obtain rfl := Option.some.inj h
        exact begins_joinSegments hp (List.nil_prefix : [] <+: p.segments)
    · obtain ⟨kept, hkept, rfl⟩ := Option.map_eq_some_iff.mp h
      exact begins_joinSegments hp (segmentsBefore?_begins hkept)

end Path

namespace FileTree

variable {t u v : FileTree} {p q : Path} {place : Place} {paths more : List Path}

/-! ## The way of a path -/

/-- A path leads over a place, or ends there. -/
def OnWay (t : FileTree) (p : Path) (place : Place) : Prop :=
  ∃ front, front <+: p.segments ∧ front.foldl Place.step (t.origin p) = place

theorem onWay_target (t : FileTree) (h : q.Begins p) : t.OnWay p (t.target q) := by
  obtain ⟨front, blanks, hfront, hblanks, hsegments⟩ := h.segments
  refine ⟨front, hfront, ?_⟩
  rw [target, hsegments, List.foldl_append, foldl_step_idle hblanks, origin, origin, h.isAbsolute]

theorem origin_of_here (h : u.here = t.here) : u.origin = t.origin := by
  funext p
  rw [origin, origin, h]

theorem target_of_here (h : u.here = t.here) : u.target = t.target := by
  funext p
  rw [target, target, origin_of_here h]

theorem onWay_of_here (h : u.here = t.here) : u.OnWay = t.OnWay := by
  funext p place
  rw [OnWay, OnWay, origin_of_here h]

/-! ## Confined changes -/

/-- The tree `u` comes from `t` by changes to the files that some paths name and by new directories
on the way to them. -/
structure Confined (paths : List Path) (t u : FileTree) : Prop where
  here : u.here = t.here
  directory : ∀ {q}, t.node? q = some .directory → u.node? q = some .directory
  file : ∀ {q old}, t.node? q = some (.file old) →
    u.node? q = some (.file old) ∨
      (∃ p ∈ paths, t.target p = q) ∧ ∃ new, u.node? q = some (.file new)
  absent : ∀ {q}, t.node? q = none →
    u.node? q = none ∨
      (∃ p ∈ paths, t.target p = q) ∧ (∃ new, u.node? q = some (.file new)) ∨
      (∃ p ∈ paths, t.OnWay p q) ∧ u.node? q = some .directory

theorem Confined.refl (paths : List Path) (t : FileTree) : Confined paths t t :=
  ⟨rfl, id, .inl, .inl⟩

theorem Confined.mono (h : Confined paths t u) (hsub : paths ⊆ more) : Confined more t u where
  here := h.here
  directory := h.directory
  file hq := (h.file hq).imp_right fun ⟨⟨p, hp, htarget⟩, hnew⟩ => ⟨⟨p, hsub hp, htarget⟩, hnew⟩
  absent hq := by
    rcases h.absent hq with hnone | ⟨⟨p, hp, htarget⟩, hnew⟩ | ⟨⟨p, hp, hway⟩, hdirectory⟩
    · exact .inl hnone
    · exact .inr (.inl ⟨⟨p, hsub hp, htarget⟩, hnew⟩)
    · exact .inr (.inr ⟨⟨p, hsub hp, hway⟩, hdirectory⟩)

theorem Confined.trans (h : Confined paths t u) (h' : Confined paths u v) :
    Confined paths t v where
  here := h'.here.trans h.here
  directory hq := h'.directory (h.directory hq)
  file hq := by
    rcases h.file hq with hkept | ⟨hnamed, new, hnew⟩
    · have hlater := h'.file hkept
      rwa [target_of_here h.here] at hlater
    · rcases h'.file hnew with hkept | ⟨-, hlater⟩
      · exact .inr ⟨hnamed, new, hkept⟩
      · exact .inr ⟨hnamed, hlater⟩
  absent hq := by
    rcases h.absent hq with hnone | ⟨hnamed, new, hnew⟩ | ⟨hway, hdirectory⟩
    · have hlater := h'.absent hnone
      rwa [target_of_here h.here, onWay_of_here h.here] at hlater
    · rcases h'.file hnew with hkept | ⟨-, hlater⟩
      · exact .inr (.inl ⟨hnamed, new, hkept⟩)
      · exact .inr (.inl ⟨hnamed, hlater⟩)
    · exact .inr (.inr ⟨hway, h'.directory hdirectory⟩)

/-- A tree that changes within bounds grows. -/
theorem Confined.grows (h : Confined paths t u) : Grows (paths.map t.target) t u where
  here := h.here
  directory := h.directory
  file {q old} hq := by
    rcases h.file hq with hkept | ⟨-, hnew⟩
    · exact ⟨old, hkept⟩
    · exact hnew
  kept {q old} hfiles hq := by
    rcases h.file hq with hkept | ⟨⟨p, hp, htarget⟩, -⟩
    · exact hkept
    · exact absurd (List.mem_map.mpr ⟨p, hp, htarget⟩) hfiles
  absent {q} hfiles hq := by
    rcases h.absent hq with hnone | ⟨⟨p, hp, htarget⟩, -⟩ | ⟨-, hdirectory⟩
    · exact .inl hnone
    · exact absurd (List.mem_map.mpr ⟨p, hp, htarget⟩) hfiles
    · exact .inr hdirectory

/-- Making a directory that a path runs through is confined to that path. -/
theorem Confined.of_makeDirectory (hbegins : q.Begins p) (h : t.makeDirectory q = .ok u) :
    Confined [p] t u := by
  obtain ⟨-, rfl, hnone⟩ := makeDirectory_eq_ok h
  have hgrows : Grows [] t (t.put (t.target q) .directory) := grows_put_directory hnone
  refine ⟨rfl, hgrows.directory, fun hq => .inl (hgrows.kept List.not_mem_nil hq), ?_⟩
  intro place hplace
  rcases hgrows.absent List.not_mem_nil hplace with hlater | hlater
  · exact .inl hlater
  · refine .inr (.inr ⟨⟨p, List.mem_singleton_self p, ?_⟩, hlater⟩)
    -- nothing but the directory that was made is there now and was not before
    by_cases heq : place = t.target q
    · rw [heq]
      exact t.onWay_target hbegins
    · rw [node?_put, if_neg heq, hplace] at hlater
      split_ifs at hlater with hroot
      rw [hroot] at hplace
      cases hplace

/-- Writing to a path is confined to it. -/
theorem Confined.of_modify {change : Bytes → Bytes} (h : t.modify p change = .ok u) :
    Confined [p] t u := by
  have hgrows : Grows [t.target p] t u := .of_modify h
  obtain ⟨-, -, old, rfl, hnode⟩ := modify_eq_ok h
  have hnamed : ∃ path ∈ [p], t.target path = t.target p := ⟨p, List.mem_singleton_self p, rfl⟩
  refine ⟨rfl, hgrows.directory, fun {place held} hplace => ?_, fun {place} hplace => ?_⟩
  · by_cases heq : place = t.target p
    · rw [heq] at hplace ⊢
      exact .inr ⟨hnamed, hgrows.file hplace⟩
    · exact .inl (hgrows.kept (by simpa using heq) hplace)
  · have hroot : place ≠ [] := by
      rintro rfl
      cases hplace
    rw [node?_put, if_neg hroot]
    by_cases heq : place = t.target p
    · rw [if_pos heq, heq]
      exact .inr (.inl ⟨hnamed, _, rfl⟩)
    · rw [if_neg heq]
      exact .inl hplace

end FileTree

end Registrar
