import Registrar.Proofs.Result
import Registrar.Proofs.Settings.Layers
import Registrar.Settings.Extract

/-!
# Fields of records

What reading a record from a table gives, field by field. Entries may stand in any order and other
entries among them; as no name stands twice, each field holds what its own entry says, or keeps its
default (`Layout.Holds.given_at?`). A record can be read when the entry of each of its fields can
(`Layout.exists_read_at?`).
-/

namespace Registrar.Settings

variable {σ α : Type} {layout : Layout σ} {name : String} {read : Tree → Extracted α} {get : σ → α}
variable {tree root : Tree} {entries : List (String × Tree)} {front back : List String}

/-- The value is what a tree gives, or the default where there is no tree. -/
def Given (read : Tree → Extracted α) (default value : α) : Option Tree → Prop
  | none => value = default
  | some tree => read tree = .ok value

theorem within_eq_ok_iff {result : Extracted α} {a : α} :
    within name result = .ok a ↔ result = .ok a :=
  mapError_eq_ok_iff

/-! ## One field -/

/-- Reading a field leaves a part of the record alone. -/
def Field.Keeps (field : Field σ) (get : σ → α) : Prop :=
  ∀ {tree : Tree} {change : σ → σ}, field.read tree = .ok change → ∀ s, get (change s) = get s

@[simp]
theorem Field.name_of {set : α → σ → σ} : (Field.of name read set).name = name :=
  rfl

theorem Field.keeps_of {β : Type} {read : Tree → Extracted β} {set : β → σ → σ}
    (h : ∀ x s, get (set x s) = get s) : (Field.of name read set).Keeps get := by
  intro tree change hread s
  obtain ⟨x, -, rfl⟩ := map_eq_ok_iff.mp hread
  exact h x s

theorem Field.exists_read_of {set : α → σ → σ} (h : ∃ x, read tree = .ok x) :
    ∃ change, (Field.of name read set).read tree = .ok change := by
  obtain ⟨x, hx⟩ := h
  exact ⟨set x, map_eq_ok_iff.mpr ⟨x, hx, rfl⟩⟩

/-- A part of a record is what one of its fields says: the field sets it, and the other fields leave
it alone. -/
structure Layout.Holds (layout : Layout σ) (name : String) (read : Tree → Extracted α)
    (get : σ → α) : Prop where
  field : ∃ set : α → σ → σ,
    layout.fields.find? (fun field => field.name = name) = some (.of name read set) ∧
      ∀ x s, get (set x s) = x
  kept : ∀ field ∈ layout.fields, field.name ≠ name → field.Keeps get

/-! ## All entries of a table -/

namespace Layout

theorem readEntry_eq_ok {s s' : σ} {entry : String × Tree}
    (h : layout.readEntry s entry = .ok s') :
    (layout.fields.find? (fun field => field.name = entry.1) = none ∧ s' = s) ∨
      ∃ field change, layout.fields.find? (fun field => field.name = entry.1) = some field ∧
        field.read entry.2 = .ok change ∧ s' = change s := by
  rw [readEntry] at h
  split at h
  · next field hfield =>
    obtain ⟨change, hchange, h⟩ := bind_eq_ok_iff.mp h
    exact .inr ⟨field, change, hfield, within_eq_ok_iff.mp hchange, (Except.ok.inj h).symm⟩
  · next hfield => exact .inl ⟨hfield, (Except.ok.inj h).symm⟩

theorem exists_readEntry {entry : String × Tree} (s : σ)
    (h : ∀ field ∈ layout.fields, field.name = entry.1 →
      ∃ change, field.read entry.2 = .ok change) :
    ∃ s', layout.readEntry s entry = .ok s' := by
  rw [readEntry]
  split
  · next field hfield =>
    obtain ⟨change, hchange⟩ := h field (List.mem_of_find?_eq_some hfield)
      (by simpa using List.find?_some hfield)
    exact ⟨change s, bind_eq_ok_iff.mpr ⟨change, within_eq_ok_iff.mpr hchange, rfl⟩⟩
  · exact ⟨s, rfl⟩

theorem exists_readEntries (s : σ)
    (h : ∀ entry ∈ entries, ∀ field ∈ layout.fields, field.name = entry.1 →
      ∃ change, field.read entry.2 = .ok change) :
    ∃ s', entries.foldlM layout.readEntry s = .ok s' := by
  induction entries generalizing s with
  | nil => exact ⟨s, rfl⟩
  | cons entry rest ih =>
    obtain ⟨u, hu⟩ := exists_readEntry s (h entry List.mem_cons_self)
    obtain ⟨s', hs'⟩ := ih u fun entry hentry => h entry (.tail _ hentry)
    rw [List.foldlM_cons]
    exact ⟨s', bind_eq_ok_iff.mpr ⟨u, hu, hs'⟩⟩

/-- Entries of other names leave a part of the record alone. -/
theorem Holds.readEntry_other {s s' : σ} {entry : String × Tree} (h : layout.Holds name read get)
    (hname : entry.1 ≠ name) (hread : layout.readEntry s entry = .ok s') : get s' = get s := by
  rcases readEntry_eq_ok hread with ⟨-, rfl⟩ | ⟨field, change, hfield, hchange, rfl⟩
  · rfl
  · have hfirst : field.name = entry.1 := by simpa using List.find?_some hfield
    exact h.kept field (List.mem_of_find?_eq_some hfield) (hfirst ▸ hname) hchange s

/-- The order of the entries does not count: a field is changed once, by the entry of its name. -/
theorem Holds.given_entries {s s' : σ} (h : layout.Holds name read get)
    (hnodup : (entries.map Prod.fst).Nodup) (hread : entries.foldlM layout.readEntry s = .ok s') :
    Given read (get s) (get s') (entries.lookup name) := by
  induction entries generalizing s with
  | nil =>
    obtain rfl := Except.ok.inj hread
    exact rfl
  | cons entry rest ih =>
    obtain ⟨first, tree⟩ := entry
    rw [List.foldlM_cons] at hread
    obtain ⟨u, hu, hread⟩ := bind_eq_ok_iff.mp hread
    have hrest := ih (List.nodup_cons.mp hnodup).2 hread
    rw [lookup_cons]
    obtain ⟨set, hset, hget⟩ := h.field
    by_cases hname : name = first
    · subst hname
      rw [lookup_eq_none_of_nodup hnodup] at hrest
      rw [if_pos rfl]
      rcases readEntry_eq_ok hu with ⟨hnone, -⟩ | ⟨field, change, hfield, hchange, rfl⟩
      · rw [hset] at hnone
        cases hnone
      · obtain rfl := Option.some.inj (hset.symm.trans hfield)
        obtain ⟨x, hx, rfl⟩ := map_eq_ok_iff.mp hchange
        have hvalue : get s' = x := hrest.trans (hget x s)
        exact hvalue ▸ hx
    · rw [if_neg hname, ← h.readEntry_other (Ne.symm hname) hu]
      exact hrest

/-! ## Records in a tree -/

variable {default s : σ}

/-- What a record in a tree holds for a field is what the tree says at the end of its path. -/
theorem Holds.given_at? (h : layout.Holds name read get) (hsorted : root.Sorted)
    (hclear : root.Clear (front ++ name :: back))
    (hgiven : Given (layout.read default) default s (root.at? front)) :
    Given read (get default) (get s) (root.at? (front ++ [name])) := by
  rw [Tree.at?_append]
  cases htree : root.at? front with
  | none =>
    rw [htree] at hgiven
    exact congrArg get hgiven
  | some tree =>
    rw [htree] at hgiven
    obtain ⟨origin, entries, rfl⟩ :=
      Tree.eq_table_of_isTable (hclear.isTable_of_at? (List.cons_ne_nil _ _) htree)
    have hnodup := (Tree.sorted_table.mp (hsorted.at? htree)).1.nodup
    rw [Option.bind_some, Tree.at?_table_singleton]
    exact h.given_entries hnodup hgiven

/-- A record in a tree can be read when all its fields can. -/
theorem exists_read_at? (hsorted : root.Sorted)
    (htable : ∀ below, root.at? front = some below → below.isTable = true)
    (hfields : ∀ field ∈ layout.fields, ∀ below, root.at? (front ++ [field.name]) = some below →
      ∃ change, field.read below = .ok change) {below : Tree}
    (hbelow : root.at? front = some below) : ∃ s, layout.read default below = .ok s := by
  obtain ⟨origin, entries, rfl⟩ := Tree.eq_table_of_isTable (htable below hbelow)
  have hnodup := (Tree.sorted_table.mp (hsorted.at? hbelow)).1.nodup
  refine exists_readEntries default fun entry hentry field hfield hname => ?_
  refine hfields field hfield entry.2 ?_
  rw [Tree.at?_append, hbelow, Option.bind_some, Tree.at?_table_singleton, hname]
  exact lookup_of_mem hnodup hentry

end Layout

end Registrar.Settings
