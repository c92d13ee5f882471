import Registrar.CommandLine
import Registrar.Proofs.Result
import Registrar.Proofs.Settings.Order
import Registrar.Settings.Variables
import Registrar.Settings.Wrapped
import Registrar.Toml.Document

/-!
# Sources in their order

Every source gives a tree whose tables are in their order, whatever its text: a document
(`Toml.sorted_read`), also without its wrappers (`sorted_of_unwrapEntries?`), the environment
(`sorted_of_ofEnvironment?`), a JSON value (`Tree.sorted_ofJson`), and the options of the program
(`Options.sorted_toTree`).
-/

namespace Registrar

/-- What every step keeps, a run that gives a result keeps. -/
theorem of_foldlM_eq_some {α σ : Type} {P : σ → Prop} {f : σ → α → Option σ} {xs : List α} {s t : σ}
    (hs : P s) (hf : ∀ x ∈ xs, ∀ {s t : σ}, P s → f s x = some t → P t)
    (h : xs.foldlM f s = some t) : P t := by
  induction xs generalizing s with
  | nil =>
    obtain rfl := Option.some.inj h
    exact hs
  | cons x xs ih =>
    rw [List.foldlM_cons] at h
    obtain ⟨u, hu, h⟩ := Option.bind_eq_some_iff.mp h
    exact ih (hf x List.mem_cons_self hs hu) (fun y hy => hf y (.tail _ hy)) h

namespace Settings

variable {tree found : Tree} {entries unwrapped : List (String × Tree)}

/-! ## Wrapped settings -/

theorem names_of_unwrapNamed? (h : unwrapNamed? entries = some unwrapped) :
    unwrapped.map Prod.fst = entries.map Prod.fst := by
  induction entries generalizing unwrapped with
  | nil =>
    rw [unwrapNamed?] at h
    obtain rfl := Option.some.inj h
    rfl
  | cons entry rest ih =>
    rw [unwrapNamed?] at h
    obtain ⟨tree, -, h⟩ := Option.bind_eq_some_iff.mp h
    obtain ⟨rest', hrest, h⟩ := Option.bind_eq_some_iff.mp h
    obtain rfl := Option.some.inj h
    rw [List.map_cons, List.map_cons, ih hrest]

theorem mem_of_unwrapNamed? (h : unwrapNamed? entries = some unwrapped) :
    ∀ entry ∈ unwrapped, ∃ origin ∈ entries, origin.2.unwrap? = some entry.2 := by
  induction entries generalizing unwrapped with
  | nil =>
    rw [unwrapNamed?] at h
    obtain rfl := Option.some.inj h
    exact nofun
  | cons first rest ih =>
    rw [unwrapNamed?] at h
    obtain ⟨tree, htree, h⟩ := Option.bind_eq_some_iff.mp h
    obtain ⟨rest', hrest, h⟩ := Option.bind_eq_some_iff.mp h
    obtain rfl := Option.some.inj h
    intro entry hentry
    rcases List.mem_cons.mp hentry with rfl | hentry
    · exact ⟨first, List.mem_cons_self, htree⟩
    · obtain ⟨origin, horigin, heq⟩ := ih hrest entry hentry
      exact ⟨origin, .tail _ horigin, heq⟩

theorem ascending_of_unwrapNamed? (h : unwrapNamed? entries = some unwrapped)
    (hascending : Ascending entries) : Ascending unwrapped := by
  have hnames := names_of_unwrapNamed? h
  rw [Ascending] at *
  rw [← List.pairwise_map (f := Prod.fst) (R := (· < ·))] at *
  rwa [hnames]

theorem sorted_of_unwrap? (hsorted : tree.Sorted) (h : tree.unwrap? = some found) :
    found.Sorted := by
  induction hsorted generalizing found with
  | leaf =>
    rw [Tree.unwrap?] at h
    obtain rfl := Option.some.inj h
    exact .leaf
  | array =>
    rw [Tree.unwrap?] at h
    obtain ⟨items, -, h⟩ := Option.bind_eq_some_iff.mp h
    obtain rfl := Option.some.inj h
    exact .array
  | table hascending hbelow ih =>
    rw [Tree.unwrap?] at h
    obtain ⟨unwrapped, hentries, h⟩ := Option.bind_eq_some_iff.mp h
    have hunwrapped : ∀ entry ∈ unwrapped, entry.2.Sorted := by
      intro entry hentry
      obtain ⟨first, hfirst, heq⟩ := mem_of_unwrapNamed? hentries entry hentry
      exact ih first hfirst heq
    split at h
    · cases h
    · obtain rfl := Option.some.inj h
      cases hlookup : unwrapped.lookup wrappedName with
      | none => exact .table (ascending_of_unwrapNamed? hentries hascending) hunwrapped
      | some tree => exact hunwrapped _ (mem_of_lookup hlookup)

/-- Taking the wrappers away keeps the order of tables. -/
theorem sorted_of_unwrapEntries? (hsorted : tree.Sorted) (h : tree.unwrapEntries? = some found) :
    found.Sorted := by
  unfold Tree.unwrapEntries? at h
  split at h
  · obtain ⟨unwrapped, hentries, h⟩ := Option.bind_eq_some_iff.mp h
    obtain rfl := Option.some.inj h
    obtain ⟨hascending, hbelow⟩ := Tree.sorted_table.mp hsorted
    refine .table (ascending_of_unwrapNamed? hentries hascending) fun entry hentry => ?_
    obtain ⟨first, hfirst, heq⟩ := mem_of_unwrapNamed? hentries entry hentry
    exact sorted_of_unwrap? (hbelow first hfirst) heq
  · exact sorted_of_unwrap? hsorted h

theorem isTable_of_unwrapEntries? (htable : tree.isTable = true)
    (h : tree.unwrapEntries? = some found) : found.isTable = true := by
  obtain ⟨origin, entries, rfl⟩ := Tree.eq_table_of_isTable htable
  obtain ⟨unwrapped, -, h⟩ := Option.bind_eq_some_iff.mp h
  obtain rfl := Option.some.inj h
  rfl

/-! ## JSON -/

mutual

/-- The tables of a JSON value are in their order. -/
theorem Tree.sorted_ofJson : (value : Json.Value) → (Tree.ofJson value).Sorted
  | .null => .leaf
  | .boolean _ => .leaf
  | .number (.integer (.ofNat _)) => .leaf
  | .number (.integer (.negSucc _)) => .leaf
  | .number (.floating _) => .leaf
  | .string _ => .leaf
  | .array _ => .array
  | .object members => sorted_tableOf (sorted_entriesOfJson members)

theorem sorted_entriesOfJson : (members : List (String × Json.Value)) →
    ∀ entry ∈ entriesOfJson members, entry.2.Sorted
  | [] => nofun
  | (_, value) :: members => by
    rw [entriesOfJson]
    exact List.forall_mem_cons.mpr ⟨Tree.sorted_ofJson value, sorted_entriesOfJson members⟩

end

/-! ## The environment -/

/-- A value of the environment, or the entries of a table of it, whatever is left of the text. -/
theorem sorted_of_readValue (fuel : Nat) :
    (∀ {cs tree rest}, readValue fuel cs = .ok (tree, rest) → tree.Sorted) ∧
      ∀ {cs entries rest}, readEntries fuel cs = .ok (entries, rest) →
        ∀ entry ∈ entries, entry.2.Sorted := by
  induction fuel with
  | zero =>
    refine ⟨?_, ?_⟩ <;> intro cs _ rest h <;> cases h
  | succ fuel ih =>
    obtain ⟨ihValue, ihEntries⟩ := ih
    refine ⟨?_, ?_⟩
    · intro cs tree rest h
      rw [readValue] at h
      split at h
      · cases h
        exact .leaf
      · cases h
        exact .leaf
      · obtain ⟨⟨entries, rest'⟩, hentries, h⟩ := bind_eq_ok_iff.mp h
        cases h
        exact sorted_tableOf (ihEntries hentries)
      · obtain ⟨⟨items, rest'⟩, -, h⟩ := bind_eq_ok_iff.mp h
        cases h
        exact .array
      · obtain ⟨⟨text, rest'⟩, -, h⟩ := bind_eq_ok_iff.mp h
        cases h
        exact .leaf
      · split at h
        · cases h
          exact .leaf
        · cases h
      · cases h
        exact .leaf
    · intro cs entries rest h
      unfold readEntries at h
      split at h
      · cases h
      · cases h
        exact nofun
      · next heq _ =>
        cases heq
        obtain ⟨⟨name, rest'⟩, -, h⟩ := bind_eq_ok_iff.mp h
        dsimp only at h
        split at h
        · obtain ⟨⟨tree, rest''⟩, htree, h⟩ := bind_eq_ok_iff.mp h
          dsimp only at h
          split at h
          · obtain ⟨⟨later, rest'''⟩, hlater, h⟩ := bind_eq_ok_iff.mp h
            cases h
            exact List.forall_mem_cons.mpr ⟨ihValue htree, ihEntries hlater⟩
          · cases h
            exact List.forall_mem_singleton.mpr (ihValue htree)
          · cases h
        · cases h

theorem sorted_of_variableTree? {text : String} (h : variableTree? text = some tree) :
    tree.Sorted := by
  unfold variableTree? at h
  dsimp only at h
  split at h
  · next hread =>
    obtain rfl := Option.some.inj h
    exact (sorted_of_readValue _).1 hread
  · cases h
  · obtain rfl := Option.some.inj h
    exact .leaf

/-- The tables of the environment are in their order. -/
theorem sorted_of_ofEnvironment? {env : Environment} (h : ofEnvironment? env = some tree) :
    tree.Sorted := by
  refine of_foldlM_eq_some (P := Tree.Sorted) (Tree.sorted_empty .environment) ?_ h
  intro binding _ start next hstart hnext
  dsimp only at hnext
  split at hnext
  · obtain ⟨value, hvalue, rfl⟩ := Option.map_eq_some_iff.mp hnext
    exact hstart.merge (sorted_nest (sorted_of_variableTree? hvalue) _)
  · obtain rfl := Option.some.inj hnext
    exact hstart

theorem ne_nil_of_variablePath? {name : String} {path : List String}
    (h : variablePath? name = some path) : path ≠ [] := by
  obtain ⟨-, -, h⟩ := Option.bind_eq_some_iff.mp h
  obtain ⟨-, -, h⟩ := Option.bind_eq_some_iff.mp h
  obtain rfl := Option.some.inj h
  exact fun hnil => Text.split_ne_nil _ _ (List.map_eq_nil_iff.mp hnil)

theorem isTable_of_ofEnvironment? {env : Environment} (h : ofEnvironment? env = some tree) :
    tree.isTable = true := by
  rw [ofEnvironment?] at h
  refine of_foldlM_eq_some (P := fun tree => tree.isTable = true) rfl ?_ h
  intro binding _ start next hstart hnext
  dsimp only at hnext
  split at hnext
  · next path hpath =>
    obtain ⟨value, -, rfl⟩ := Option.map_eq_some_iff.mp hnext
    obtain ⟨name, rest, rfl⟩ := List.exists_cons_of_ne_nil (ne_nil_of_variablePath? hpath)
    exact Tree.isTable_merge rfl
  · obtain rfl := Option.some.inj hnext
    exact hstart

end Settings

/-! ## Documents -/

namespace Toml

open Settings (Tree)

variable {table changed : Table}

/-- The trees under a name have their tables in order, down through tables. -/
inductive Item.Sorted : Item → Prop
  | value {tree : Tree} : tree.Sorted → Sorted (.value tree)
  | table {table : Table} : (∀ entry ∈ table.items, entry.2.Sorted) → Sorted (.table table)
  | tables {last : Table} {before : List Table} : Sorted (.tables last before)

/-- The trees under the names of a table have their tables in order. -/
def Table.Sorted (table : Table) : Prop :=
  ∀ entry ∈ table.items, entry.2.Sorted

theorem mem_itemTrees {items : List (String × Item)} :
    ∀ entry ∈ itemTrees items, ∃ item ∈ items, entry = (item.1, item.2.toTree) := by
  induction items with
  | nil => exact nofun
  | cons first rest ih =>
    obtain ⟨name, item⟩ := first
    intro entry hentry
    rw [itemTrees] at hentry
    rcases List.mem_cons.mp hentry with rfl | hentry
    · exact ⟨(name, item), List.mem_cons_self, rfl⟩
    · obtain ⟨item, hitem, heq⟩ := ih entry hentry
      exact ⟨item, .tail _ hitem, heq⟩

theorem Item.Sorted.toTree {item : Item} (h : item.Sorted) : item.toTree.Sorted := by
  induction h with
  | value h =>
    rw [Item.toTree]
    exact h
  | @table table h ih =>
    obtain ⟨implied, pointed, items⟩ := table
    rw [Item.toTree, Table.toTree]
    refine Settings.sorted_tableOf fun entry hentry => ?_
    obtain ⟨item, hitem, rfl⟩ := mem_itemTrees entry hentry
    exact ih item hitem
  | tables =>
    rw [Item.toTree]
    exact .array

theorem Table.Sorted.toTree (h : table.Sorted) : table.toTree.Sorted := by
  have hitem := (Item.Sorted.table h).toTree
  rw [Item.toTree] at hitem
  exact hitem

theorem Table.sorted_empty (implied pointed : Bool) : (Table.mk implied pointed []).Sorted :=
  nofun

theorem Table.Sorted.set (h : table.Sorted) (name : String) {item : Item} (hitem : item.Sorted) :
    (table.set name item).Sorted := by
  intro entry hentry
  rcases List.mem_append.mp hentry with hentry | hentry
  · exact h entry (List.mem_of_mem_filter hentry)
  · rw [List.mem_singleton.mp hentry]
    exact hitem

theorem Table.Sorted.find? (h : table.Sorted) {name : String} {item : Item}
    (hitem : table.find? name = some item) : item.Sorted := by
  obtain ⟨before, after, hitems, -⟩ := List.lookup_eq_some_iff.mp hitem
  exact h (name, item) (by rw [hitems]; simp)

/-- A change that keeps the order may be made anywhere below a table. -/
theorem Table.Sorted.descend {byPoint : Bool} {change : Table → Option Table} {path : List String}
    (h : table.Sorted) (hchange : ∀ {t t' : Table}, t.Sorted → change t = some t' → t'.Sorted)
    (hdescend : Table.descend byPoint change path table = some changed) : changed.Sorted := by
  induction path generalizing table changed with
  | nil =>
    rw [Table.descend] at hdescend
    exact hchange h hdescend
  | cons name path ih =>
    rw [Table.descend] at hdescend
    split at hdescend
    · obtain ⟨child, hchild, hset⟩ := Option.bind_eq_some_iff.mp hdescend
      obtain rfl := Option.some.inj hset
      exact h.set name (.table (ih (Table.sorted_empty _ _) hchild))
    · cases hdescend
    · obtain ⟨child, -, hset⟩ := Option.bind_eq_some_iff.mp hdescend
      obtain rfl := Option.some.inj hset
      exact h.set name .tables
    · next child hfind =>
      split at hdescend
      · cases hdescend
      · obtain ⟨child', hchild, hset⟩ := Option.bind_eq_some_iff.mp hdescend
        obtain rfl := Option.some.inj hset
        cases h.find? hfind with
        | table hbelow => exact h.set name (.table (ih hbelow hchild))

theorem Table.Sorted.addValue {tree : Tree} {path : List String} (h : table.Sorted)
    (htree : tree.Sorted) (hadd : table.addValue tree path = some changed) : changed.Sorted := by
  refine h.descend (fun ht hchange => ?_) hadd
  obtain ⟨-, -, hchange⟩ := Option.bind_eq_some_iff.mp hchange
  obtain ⟨name, -, hchange⟩ := Option.bind_eq_some_iff.mp hchange
  obtain ⟨-, -, hchange⟩ := Option.bind_eq_some_iff.mp hchange
  obtain rfl := Option.some.inj hchange
  exact ht.set name (.value htree)

theorem Table.Sorted.addTable {path : List String} (h : table.Sorted)
    (hadd : table.addTable path = some changed) : changed.Sorted := by
  refine h.descend (fun ht hchange => ?_) hadd
  obtain ⟨name, -, hchange⟩ := Option.bind_eq_some_iff.mp hchange
  split at hchange
  · obtain rfl := Option.some.inj hchange
    exact ht.set name (.table (Table.sorted_empty _ _))
  · next child hfind =>
    obtain ⟨-, -, hchange⟩ := Option.bind_eq_some_iff.mp hchange
    obtain rfl := Option.some.inj hchange
    cases ht.find? hfind with
    | table hbelow => exact ht.set name (.table hbelow)
  · cases hchange

theorem Table.Sorted.addToArray {path : List String} (h : table.Sorted)
    (hadd : table.addToArray path = some changed) : changed.Sorted := by
  refine h.descend (fun ht hchange => ?_) hadd
  obtain ⟨name, -, hchange⟩ := Option.bind_eq_some_iff.mp hchange
  split at hchange
  · obtain rfl := Option.some.inj hchange
    exact ht.set name .tables
  · obtain rfl := Option.some.inj hchange
    exact ht.set name .tables
  · cases hchange

theorem sorted_of_inlineTable? {pairs : List (List String × Tree)} {tree : Tree}
    (hpairs : ∀ pair ∈ pairs, pair.2.Sorted) (h : inlineTable? pairs = some tree) :
    tree.Sorted := by
  obtain ⟨table, hfold, h⟩ := Option.bind_eq_some_iff.mp h
  obtain rfl := Option.some.inj h
  refine Table.Sorted.toTree
    (of_foldlM_eq_some (P := Table.Sorted) (Table.sorted_empty _ _) ?_ hfold)
  exact fun pair hpair _ _ ht hadd => ht.addValue (hpairs pair hpair) hadd

/-- A value of a document, or the names and values of a table in braces, whatever is left of the
text. -/
theorem sorted_of_value? (fuel : Nat) :
    (∀ {room cs tree rest}, value? fuel room cs = some (tree, rest) → tree.Sorted) ∧
      (∀ {room cs pairs rest}, pairs? fuel room cs = some (pairs, rest) →
        ∀ pair ∈ pairs, pair.2.Sorted) ∧
      ∀ {room cs pair rest}, pair? fuel room cs = some (pair, rest) → pair.2.Sorted := by
  induction fuel with
  | zero =>
    refine ⟨?_, ?_, ?_⟩
    · intro room cs tree rest h
      rw [value?] at h
      cases h
    · intro room cs pairs rest h
      rw [pairs?] at h
      cases h
    · intro room cs pair rest h
      rw [pair?] at h
      cases h
  | succ fuel ih =>
    obtain ⟨ihValue, ihPairs, ihPair⟩ := ih
    refine ⟨?_, ?_, ?_⟩
    · intro room cs tree rest h
      unfold value? at h
      split at h
      · cases h
      · cases h
      · cases h
      · obtain ⟨⟨items, rest'⟩, -, h⟩ := Option.bind_eq_some_iff.mp h
        cases h
        exact .array
      · next heq =>
        cases heq
        split at h
        · obtain ⟨_, hnone, h⟩ := Option.bind_eq_some_iff.mp h
          cases hnone
          obtain ⟨tree', htree, h⟩ := Option.bind_eq_some_iff.mp h
          cases h
          exact sorted_of_inlineTable? (List.forall_mem_nil _) htree
        · obtain ⟨⟨pairs, rest'⟩, hpairs, h⟩ := Option.bind_eq_some_iff.mp h
          obtain ⟨tree', htree, h⟩ := Option.bind_eq_some_iff.mp h
          cases h
          exact sorted_of_inlineTable? (ihPairs hpairs) htree
      · split at h
        · obtain ⟨⟨text, rest'⟩, -, h⟩ := Option.map_eq_some_iff.mp h
          cases h
          exact .leaf
        · obtain ⟨⟨text, rest'⟩, -, h⟩ := Option.map_eq_some_iff.mp h
          cases h
          exact .leaf
        · split at h
          · cases h
            exact Settings.sorted_tableOf (List.forall_mem_singleton.mpr .leaf)
          · obtain ⟨scalar, -, h⟩ := Option.bind_eq_some_iff.mp h
            cases h
            exact .leaf
    · intro room cs pairs rest h
      rw [pairs?] at h
      obtain ⟨⟨pair, rest'⟩, hpair, h⟩ := Option.bind_eq_some_iff.mp h
      dsimp only at h
      split at h
      · obtain ⟨⟨later, rest''⟩, hlater, h⟩ := Option.bind_eq_some_iff.mp h
        cases h
        exact List.forall_mem_cons.mpr ⟨ihPair hpair, ihPairs hlater⟩
      · cases h
        exact List.forall_mem_singleton.mpr (ihPair hpair)
      · cases h
    · intro room cs pair rest h
      rw [pair?] at h
      obtain ⟨⟨path, rest'⟩, -, h⟩ := Option.bind_eq_some_iff.mp h
      dsimp only at h
      split at h
      · obtain ⟨⟨tree, rest''⟩, htree, h⟩ := Option.bind_eq_some_iff.mp h
        cases h
        exact ihValue htree
      · cases h

theorem sorted_of_takeLine? {fuel : Nat} {draft draft' : Draft} {cs rest : List Char}
    (h : draft.root.Sorted) (htake : takeLine? fuel draft cs = some (draft', rest)) :
    draft'.root.Sorted := by
  unfold takeLine? at htake
  split at htake
  · obtain ⟨⟨path, rest'⟩, -, htake⟩ := Option.bind_eq_some_iff.mp htake
    dsimp only at htake
    split at htake
    · obtain ⟨root, hroot, htake⟩ := Option.bind_eq_some_iff.mp htake
      cases htake
      exact h.addToArray hroot
    · cases htake
  · obtain ⟨⟨path, rest'⟩, -, htake⟩ := Option.bind_eq_some_iff.mp htake
    dsimp only at htake
    split at htake
    · obtain ⟨root, hroot, htake⟩ := Option.bind_eq_some_iff.mp htake
      cases htake
      exact h.addTable hroot
    · cases htake
  · obtain ⟨⟨⟨path, tree⟩, rest'⟩, hpair, htake⟩ := Option.bind_eq_some_iff.mp htake
    obtain ⟨root, hroot, htake⟩ := Option.bind_eq_some_iff.mp htake
    cases htake
    have htree : tree.Sorted := (sorted_of_value? fuel).2.2 hpair
    exact h.descend (fun ht hadd => ht.addValue htree hadd) hroot

theorem sorted_of_takeLines? {fuel : Nat} {draft : Draft} {cs : List Char} {table : Table}
    (h : draft.root.Sorted) (htake : takeLines? fuel draft cs = some table) : table.Sorted := by
  induction fuel generalizing draft cs with
  | zero => cases htake
  | succ fuel ih =>
    rw [takeLines?] at htake
    obtain ⟨cs', -, htake⟩ := Option.bind_eq_some_iff.mp htake
    split at htake
    · obtain rfl := Option.some.inj htake
      exact h
    · obtain ⟨⟨draft', rest⟩, hline, htake⟩ := Option.bind_eq_some_iff.mp htake
      obtain ⟨cs'', -, htake⟩ := Option.bind_eq_some_iff.mp htake
      exact ih (sorted_of_takeLine? h hline) htake

/-- The tables of a document are in their order. -/
theorem sorted_read {text : String} {tree : Tree} (h : read text = some tree) : tree.Sorted := by
  obtain ⟨table, htake, h⟩ := Option.bind_eq_some_iff.mp h
  obtain rfl := Option.some.inj h
  exact (sorted_of_takeLines? (Table.sorted_empty _ _) htake).toTree

theorem isTable_of_read {text : String} {tree : Tree} (h : read text = some tree) :
    tree.isTable = true := by
  obtain ⟨⟨implied, pointed, items⟩, -, h⟩ := Option.bind_eq_some_iff.mp h
  obtain rfl := Option.some.inj h
  rw [Table.toTree]
  rfl

end Toml

/-! ## Options -/

theorem Options.sorted_table {entries : List (Option (String × Settings.Tree))}
    (h : ∀ entry, some entry ∈ entries → entry.2.Sorted) : (Options.table entries).Sorted := by
  refine Settings.sorted_tableOf fun entry hentry => ?_
  obtain ⟨given, hgiven, rfl⟩ := List.mem_filterMap.mp hentry
  exact h entry hgiven

/-- The settings that the options stand for are in their order. -/
theorem Options.sorted_toTree (o : Options) : o.toTree.Sorted := by
  rw [Options.toTree]
  refine sorted_table fun entry hentry => ?_
  simp only [List.mem_cons, Option.some.injEq, List.not_mem_nil, or_false] at hentry
  -- every table holds single values only
  rcases hentry with rfl | rfl | hlevel
  · refine sorted_table fun entry hentry => ?_
    obtain ⟨p, -, rfl⟩ := Option.map_eq_some_iff.mp (List.mem_singleton.mp hentry).symm
    exact .leaf
  · refine sorted_table fun entry hentry => ?_
    rcases List.mem_cons.mp hentry with hentry | hentry
    · split at hentry <;> cases hentry
      exact .leaf
    · have hentry := List.mem_singleton.mp hentry
      split at hentry <;> cases hentry
      exact .leaf
  · obtain ⟨name, -, rfl⟩ := Option.map_eq_some_iff.mp hlevel.symm
    refine sorted_table fun entry hentry => ?_
    cases List.mem_singleton.mp hentry
    exact .leaf

end Registrar
