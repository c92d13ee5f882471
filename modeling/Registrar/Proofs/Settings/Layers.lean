import Registrar.Proofs.Settings.Order
import Registrar.Settings.Loader

/-!
# Layers

What a path of names leads to in several trees laid over each other. A path is clear in a tree when
it runs through tables to a single value, as far as the tree has it (`Tree.Clear`). Where a path is
clear in two trees, it leads to what the later one says, or else to what the earlier one says
(`Tree.Clear.at?_merge`), so that in any number of layers the last one that says something decides
(`Tree.Clear.at?_foldl_merge`).
-/

namespace Registrar.Settings

variable {name : String} {tree old new start : Tree} {path : List String}
variable {entries : List (String × Tree)} {origin : Origin} {trees : List Tree}

/-! ## Paths -/

/-- What a path of names leads to. -/
def Tree.at? : List String → Tree → Option Tree
  | [], tree => some tree
  | name :: path, .table _ entries => (entries.lookup name).bind (Tree.at? path)
  | _ :: _, _ => none

/-- A path runs through tables to what is no table, as far as the tree has it. -/
def Tree.Clear : List String → Tree → Prop
  | [], tree => tree.isTable = false
  | name :: path, .table _ entries =>
    ∀ below, entries.lookup name = some below → Tree.Clear path below
  | _ :: _, _ => False

theorem Tree.at?_table_singleton (origin : Origin) (entries : List (String × Tree))
    (name : String) : (Tree.table origin entries).at? [name] = entries.lookup name :=
  Option.bind_fun_some _

theorem Tree.at?_append (tree : Tree) (front back : List String) :
    tree.at? (front ++ back) = (tree.at? front).bind (Tree.at? back) := by
  induction front generalizing tree with
  | nil => rfl
  | cons name front ih =>
    cases tree with
    | leaf => rfl
    | array => rfl
    | table origin entries =>
      rw [List.cons_append, Tree.at?, Tree.at?, Option.bind_assoc]
      exact congrArg _ (funext fun below => ih below)

theorem Tree.Sorted.at? (h : tree.Sorted) {below : Tree} (hbelow : tree.at? path = some below) :
    below.Sorted := by
  induction path generalizing tree with
  | nil =>
    obtain rfl := Option.some.inj hbelow
    exact h
  | cons name path ih =>
    cases tree with
    | leaf => cases hbelow
    | array => cases hbelow
    | table origin entries =>
      obtain ⟨child, hchild, hbelow⟩ := Option.bind_eq_some_iff.mp hbelow
      exact ih (h.lookup hchild) hbelow

/-- A path is clear when every part of it leads to a table and the whole of it does not. -/
theorem Tree.clear_of_at? (hfront : ∀ front back, front ++ back = path → back ≠ [] →
      ∀ below, tree.at? front = some below → below.isTable = true)
    (hend : ∀ below, tree.at? path = some below → below.isTable = false) : tree.Clear path := by
  induction path generalizing tree with
  | nil => exact hend tree rfl
  | cons name path ih =>
    obtain ⟨origin, entries, rfl⟩ :=
      Tree.eq_table_of_isTable (hfront [] (name :: path) rfl (List.cons_ne_nil _ _) tree rfl)
    intro child hchild
    have hinto : ∀ front, (Tree.table origin entries).at? (name :: front) = child.at? front := by
      intro front
      rw [Tree.at?, hchild]
      rfl
    refine ih (fun front back hpath hback below hbelow => ?_) (fun below hbelow => ?_)
    · exact hfront (name :: front) back (congrArg _ hpath) hback below ((hinto front).trans hbelow)
    · exact hend below ((hinto path).trans hbelow)

/-- On the way along a clear path there are tables. -/
theorem Tree.Clear.isTable_of_at? {front back : List String} (h : tree.Clear (front ++ back))
    (hback : back ≠ []) {below : Tree} (hbelow : tree.at? front = some below) :
    below.isTable = true := by
  induction front generalizing tree with
  | nil =>
    obtain rfl := Option.some.inj hbelow
    obtain ⟨name, path, rfl⟩ := List.exists_cons_of_ne_nil hback
    cases tree with
    | leaf => exact h.elim
    | array => exact h.elim
    | table => rfl
  | cons name front ih =>
    cases tree with
    | leaf => cases hbelow
    | array => cases hbelow
    | table origin entries =>
      obtain ⟨child, hchild, hbelow⟩ := Option.bind_eq_some_iff.mp hbelow
      exact ih (h child hchild) hbelow

/-! ## One tree over another -/

theorem Tree.merge_of_isTable_eq_false (h : new.isTable = false) : old.merge new = new := by
  cases new with
  | leaf => rfl
  | array => rfl
  | table => cases h

/-- Along a clear path, a later tree has the last word on what it says and leaves the rest. -/
theorem Tree.Clear.at?_merge (hold : old.Clear path) (hnew : new.Clear path)
    (hsorted : new.Sorted) :
    (old.merge new).Clear path ∧ (old.merge new).at? path = (new.at? path).or (old.at? path) := by
  induction path generalizing old new with
  | nil =>
    rw [Tree.merge_of_isTable_eq_false hnew]
    exact ⟨hnew, rfl⟩
  | cons name path ih =>
    cases old with
    | leaf => exact hold.elim
    | array => exact hold.elim
    | table origin earlier =>
      cases new with
      | leaf => exact hnew.elim
      | array => exact hnew.elim
      | table origin' entries =>
        have hlookup := lookup_mergeEntries (Tree.sorted_table.mp hsorted).1.nodup earlier name
        have hmerge : (Tree.table origin earlier).merge (.table origin' entries) =
            .table origin' (mergeEntries earlier entries) := by
          rw [Tree.merge]
        rw [hmerge]
        simp only [Tree.Clear, Tree.at?, hlookup]
        cases hchild : entries.lookup name with
        | none => exact ⟨hold, rfl⟩
        | some child =>
          have hchildClear := hnew child hchild
          cases hbefore : earlier.lookup name with
          | none =>
            refine ⟨?_, by simp⟩
            rintro _ ⟨⟩
            exact hchildClear
          | some before =>
            obtain ⟨hclear, hat⟩ := ih (hold before hbefore) hchildClear (hsorted.lookup hchild)
            refine ⟨?_, hat⟩
            rintro _ ⟨⟩
            exact hclear

/-! ## Several layers -/

theorem Tree.Sorted.foldl_merge (hstart : start.Sorted) (htrees : ∀ tree ∈ trees, tree.Sorted) :
    (trees.foldl Tree.merge start).Sorted := by
  induction trees generalizing start with
  | nil => exact hstart
  | cons tree rest ih =>
    exact ih (hstart.merge (htrees tree List.mem_cons_self)) fun tree h => htrees tree (.tail _ h)

/-- What the last of several trees that have a path says at its end. -/
def last? (path : List String) (trees : List Tree) : Option Tree :=
  (trees.filterMap (Tree.at? path)).getLast?

theorem last?_cons (path : List String) (tree : Tree) (trees : List Tree) :
    last? path (tree :: trees) = (last? path trees).or (tree.at? path) := by
  unfold last?
  rw [List.filterMap_cons]
  cases tree.at? path with
  | none => rw [Option.or_none]
  | some found =>
    rw [List.getLast?_cons]
    cases (trees.filterMap (Tree.at? path)).getLast? <;> rfl

theorem last?_append (path : List String) (trees later : List Tree) :
    last? path (trees ++ later) = (last? path later).or (last? path trees) := by
  unfold last?
  rw [List.filterMap_append, List.getLast?_append]

/-- Along a clear path, the last of several layers that says something decides. -/
theorem Tree.Clear.at?_foldl_merge (hstart : start.Clear path)
    (htrees : ∀ tree ∈ trees, tree.Sorted ∧ tree.Clear path) :
    (trees.foldl Tree.merge start).Clear path ∧
      (trees.foldl Tree.merge start).at? path = (last? path trees).or (start.at? path) := by
  induction trees generalizing start with
  | nil => exact ⟨hstart, rfl⟩
  | cons tree rest ih =>
    obtain ⟨hsorted, hclear⟩ := htrees tree List.mem_cons_self
    obtain ⟨hnext, hat⟩ := hstart.at?_merge hclear hsorted
    obtain ⟨hend, hlast⟩ := ih hnext fun tree h => htrees tree (.tail _ h)
    refine ⟨hend, ?_⟩
    rw [List.foldl_cons, hlast, hat, last?_cons, Option.or_assoc]

theorem mem_of_last? {below : Tree} (h : last? path trees = some below) :
    ∃ tree ∈ trees, tree.at? path = some below :=
  List.mem_filterMap.mp (List.mem_of_getLast? h)

theorem Tree.clear_emptyTable (h : path ≠ []) :
    emptyTable.Clear path ∧ emptyTable.at? path = none := by
  obtain ⟨name, rest, rfl⟩ := List.exists_cons_of_ne_nil h
  exact ⟨nofun, rfl⟩

/-! ## Sources -/

theorem layer_append (start : Tree) (sources later : List Source) :
    layer start (sources ++ later) = (layer start sources) >>= (layer · later) := by
  induction sources generalizing start with
  | nil => rfl
  | cons source rest ih =>
    cases source with
    | error why => rfl
    | ok tree => exact ih _

theorem layer_ok (start : Tree) (trees : List Tree) :
    layer start (trees.map .ok) = .ok (trees.foldl Tree.merge start) := by
  induction trees generalizing start with
  | nil => rfl
  | cons tree rest ih => exact ih _

/-- Tables laid over a table in their order make up a table in its order. -/
theorem table_of_layer {sources : List Source} {front : Tree}
    (hstart : start.isTable = true ∧ start.Sorted)
    (hsources : ∀ tree, Except.ok tree ∈ sources → tree.isTable = true ∧ tree.Sorted)
    (h : layer start sources = .ok front) : front.isTable = true ∧ front.Sorted := by
  induction sources generalizing start with
  | nil =>
    obtain rfl := Except.ok.inj h
    exact hstart
  | cons source rest ih =>
    cases source with
    | error why => cases h
    | ok tree =>
      obtain ⟨htable, hsorted⟩ := hsources tree List.mem_cons_self
      exact ih ⟨Tree.isTable_merge htable, hstart.2.merge hsorted⟩
        (fun tree htree => hsources tree (.tail _ htree)) h

end Registrar.Settings
