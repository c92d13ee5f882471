import Mathlib.Data.List.Pairwise
import Mathlib.Data.String.Basic
import Registrar.Settings.Tree

/-!
# Tables in their order

The names of a table ascend, and so do those of the tables in it (`Tree.Sorted`). What builds tables
keeps that: setting an entry, gathering entries, and laying one tree over another. In such tables a
name stands once, so that a later table changes an earlier one name by name (`lookup_mergeEntries`).
-/

namespace Registrar.Settings

variable {name : String} {tree old new : Tree} {entries earlier : List (String × Tree)}
variable {origin : Origin}

/-! ## Entries -/

/-- The names ascend. -/
def Ascending (entries : List (String × Tree)) : Prop :=
  entries.Pairwise fun a b => a.1 < b.1

theorem Ascending.nodup (h : Ascending entries) : (entries.map Prod.fst).Nodup :=
  List.pairwise_map.mpr (h.imp ne_of_lt)

theorem lookup_cons (name other : String) (tree : Tree) (rest : List (String × Tree)) :
    ((name, tree) :: rest).lookup other =
      if other = name then some tree else rest.lookup other := by
  by_cases h : other = name
  · subst h
    simp
  · rw [List.lookup_cons, beq_false_of_ne h, if_neg h]

theorem lookup_of_mem (h : (entries.map Prod.fst).Nodup) {entry : String × Tree}
    (hentry : entry ∈ entries) : entries.lookup entry.1 = some entry.2 := by
  induction entries with
  | nil => cases hentry
  | cons first rest ih =>
    obtain ⟨hfirst, hrest⟩ := List.nodup_cons.mp h
    obtain ⟨other, tree⟩ := first
    rw [lookup_cons]
    rcases List.mem_cons.mp hentry with rfl | hentry
    · exact if_pos rfl
    · have hne : entry.1 ≠ other := fun heq => hfirst (List.mem_map.mpr ⟨entry, hentry, heq⟩)
      rw [if_neg hne, ih hrest hentry]

theorem lookup_eq_none_of_nodup (h : (((name, tree) :: entries).map Prod.fst).Nodup) :
    entries.lookup name = none :=
  List.lookup_eq_none_iff.mpr fun entry hentry => by
    have hfirst := (List.nodup_cons.mp h).1
    simpa using fun heq : name = entry.1 =>
      hfirst (List.mem_map.mpr ⟨entry, hentry, heq.symm⟩)

theorem lookup_setEntry (name other : String) (tree : Tree) (entries : List (String × Tree)) :
    (setEntry name tree entries).lookup other =
      if other = name then some tree else entries.lookup other := by
  induction entries with
  | nil => exact lookup_cons name other tree []
  | cons entry rest ih =>
    obtain ⟨first, old⟩ := entry
    rw [setEntry]
    split
    · exact lookup_cons name other tree _
    · split
      · next heq =>
        subst heq
        by_cases h : other = name <;> simp [lookup_cons, h]
      · next hne =>
        rw [lookup_cons, lookup_cons, ih]
        by_cases h : other = first
        · have hother : other ≠ name := fun hname => hne (hname.symm.trans h)
          rw [if_pos h, if_neg hother, if_pos h]
        · rw [if_neg h, if_neg h]

theorem mem_setEntry {entry : String × Tree} (h : entry ∈ setEntry name tree entries) :
    entry = (name, tree) ∨ entry ∈ entries := by
  induction entries with
  | nil => simpa [setEntry] using h
  | cons first rest ih =>
    rw [setEntry] at h
    split_ifs at h with hlt heq
    · exact List.mem_cons.mp h
    · rcases List.mem_cons.mp h with h | h
      · exact .inl h
      · exact .inr (List.mem_cons_of_mem _ h)
    · rcases List.mem_cons.mp h with h | h
      · exact .inr (h ▸ List.mem_cons_self)
      · exact (ih h).imp_right (List.mem_cons_of_mem _)

theorem ascending_setEntry (h : Ascending entries) : Ascending (setEntry name tree entries) := by
  induction entries with
  | nil => exact List.pairwise_singleton _ _
  | cons first rest ih =>
    obtain ⟨hfirst, hrest⟩ := List.pairwise_cons.mp h
    rw [setEntry]
    split_ifs with hlt heq
    · refine List.pairwise_cons.mpr ⟨?_, h⟩
      intro entry hentry
      rcases List.mem_cons.mp hentry with rfl | hentry
      · exact hlt
      · exact hlt.trans (hfirst entry hentry)
    · exact List.pairwise_cons.mpr ⟨heq ▸ hfirst, hrest⟩
    · refine List.pairwise_cons.mpr ⟨?_, ih hrest⟩
      intro entry hentry
      rcases mem_setEntry hentry with rfl | hentry
      · exact lt_of_le_of_ne (not_lt.mp hlt) (Ne.symm heq)
      · exact hfirst entry hentry

/-! ## Trees -/

/-- Whether the tree is a table. -/
def Tree.isTable : Tree → Bool
  | .table _ _ => true
  | _ => false

theorem Tree.eq_table_of_isTable (h : tree.isTable = true) :
    ∃ origin entries, tree = .table origin entries := by
  cases tree with
  | leaf => cases h
  | array => cases h
  | table origin entries => exact ⟨origin, entries, rfl⟩

/-- The names in a table ascend, and so do those in the tables that lie in it. What lies in an array
does not matter: arrays are never laid over each other. -/
inductive Tree.Sorted : Tree → Prop
  | leaf {origin : Origin} {value : Scalar} : Sorted (.leaf origin value)
  | array {origin : Origin} {items : List Tree} : Sorted (.array origin items)
  | table {origin : Origin} {entries : List (String × Tree)} (ascending : Ascending entries)
      (below : ∀ entry ∈ entries, entry.2.Sorted) : Sorted (.table origin entries)

theorem Tree.sorted_table :
    (Tree.table origin entries).Sorted ↔
      Ascending entries ∧ ∀ entry ∈ entries, entry.2.Sorted := by
  refine ⟨?_, fun ⟨hascending, hbelow⟩ => .table hascending hbelow⟩
  rintro (_ | _ | ⟨hascending, hbelow⟩)
  exact ⟨hascending, hbelow⟩

theorem mem_of_lookup (h : entries.lookup name = some tree) : (name, tree) ∈ entries := by
  obtain ⟨before, after, rfl, -⟩ := List.lookup_eq_some_iff.mp h
  simp

theorem Tree.Sorted.lookup (h : (Tree.table origin entries).Sorted)
    (hlookup : entries.lookup name = some tree) : tree.Sorted :=
  (Tree.sorted_table.mp h).2 _ (mem_of_lookup hlookup)

theorem Tree.Sorted.setEntry (h : (Tree.table origin entries).Sorted) (htree : tree.Sorted) :
    (Tree.table origin (setEntry name tree entries)).Sorted := by
  obtain ⟨hascending, hbelow⟩ := Tree.sorted_table.mp h
  refine .table (ascending_setEntry hascending) fun entry hentry => ?_
  rcases mem_setEntry hentry with rfl | hentry
  · exact htree
  · exact hbelow entry hentry

theorem Tree.sorted_empty (origin : Origin) : (Tree.table origin []).Sorted :=
  .table .nil nofun

/-- Gathered entries make up a table in its order. -/
theorem sorted_tableOf (h : ∀ entry ∈ entries, entry.2.Sorted) :
    (tableOf origin entries).Sorted := by
  have hfold : ∀ earlier, (Tree.table origin earlier).Sorted →
      (Tree.table origin (entries.foldl (fun table entry => setEntry entry.1 entry.2 table)
        earlier)).Sorted := by
    induction entries with
    | nil => exact fun _ => id
    | cons entry rest ih =>
      intro earlier hearlier
      exact ih (fun entry hentry => h entry (List.mem_cons_of_mem _ hentry)) _
        (hearlier.setEntry (h entry List.mem_cons_self))
  exact hfold [] (Tree.sorted_empty origin)

/-- Among gathered entries a name stands for what the last one of that name says. -/
theorem lookup_gathered (entries earlier : List (String × Tree)) (name : String) :
    (entries.foldl (fun table entry => setEntry entry.1 entry.2 table) earlier).lookup name =
      (entries.reverse.lookup name).or (earlier.lookup name) := by
  induction entries generalizing earlier with
  | nil => rfl
  | cons entry rest ih =>
    rw [List.foldl_cons, ih, lookup_setEntry, List.reverse_cons, List.lookup_append, lookup_cons,
      Option.or_assoc]
    by_cases h : name = entry.1
    · rw [if_pos h, if_pos h]
      rfl
    · rw [if_neg h, if_neg h]
      rfl

theorem sorted_nest (h : tree.Sorted) (path : List String) : (nest origin tree path).Sorted := by
  induction path with
  | nil => exact h
  | cons name path ih =>
    refine .table (List.pairwise_singleton _ _) ?_
    simpa using ih

theorem sorted_mergeEntries (hearlier : (Tree.table origin earlier).Sorted)
    (hentries : ∀ entry ∈ entries, entry.2.Sorted)
    (hmerge : ∀ entry ∈ entries, ∀ {old : Tree}, old.Sorted → (old.merge entry.2).Sorted) :
    (Tree.table origin (mergeEntries earlier entries)).Sorted := by
  induction entries generalizing earlier with
  | nil =>
    rw [mergeEntries]
    exact hearlier
  | cons entry rest ih =>
    obtain ⟨name, tree⟩ := entry
    rw [mergeEntries]
    refine ih (hearlier.setEntry ?_) (fun entry hentry => hentries entry (.tail _ hentry))
      (fun entry hentry => hmerge entry (.tail _ hentry))
    split
    · next old hold => exact hmerge _ List.mem_cons_self (hearlier.lookup hold)
    · exact hentries _ List.mem_cons_self

/-- Laying one tree over another keeps the order of tables. -/
theorem Tree.Sorted.merge (hold : old.Sorted) (hnew : new.Sorted) : (old.merge new).Sorted := by
  induction hnew generalizing old with
  | leaf =>
    unfold Tree.merge
    exact .leaf
  | array =>
    unfold Tree.merge
    exact .array
  | table hascending hbelow ih =>
    unfold Tree.merge
    split
    · obtain ⟨hearlier, hearlierBelow⟩ := Tree.sorted_table.mp hold
      exact sorted_mergeEntries (.table hearlier hearlierBelow) hbelow fun entry hentry _ hold =>
        ih entry hentry hold
    · exact .table hascending hbelow

theorem Tree.isTable_merge (h : new.isTable = true) : (old.merge new).isTable = true := by
  obtain ⟨origin, entries, rfl⟩ := Tree.eq_table_of_isTable h
  unfold Tree.merge
  split <;> rfl

/-- What a name stands for once entries were laid over a table: what the entries say is laid over
what the table said, and the rest stays. -/
theorem lookup_mergeEntries (h : (entries.map Prod.fst).Nodup) (earlier : List (String × Tree))
    (name : String) :
    (mergeEntries earlier entries).lookup name =
      match entries.lookup name with
      | none => earlier.lookup name
      | some tree =>
        some (match earlier.lookup name with
          | some old => old.merge tree
          | none => tree) := by
  induction entries generalizing earlier with
  | nil => rfl
  | cons entry rest ih =>
    obtain ⟨first, tree⟩ := entry
    rw [mergeEntries]
    rw [ih (List.nodup_cons.mp h).2, lookup_setEntry, lookup_cons]
    by_cases hname : name = first
    · subst hname
      cases earlier.lookup name <;> simp only [lookup_eq_none_of_nodup h, if_true]
    · simp only [if_neg hname]

end Registrar.Settings
