import Registrar.Proofs.Settings.Loading

/-!
# Options that set nothing

Options of which none is given still lay two tables without entries over all other sources, one for
the feed and one for the output. Where the other sources have a table there, or nothing, that
changes nothing (`Loader.load_noOptions`). Anything else gives way to the empty table
(`ofTree_merge_noOptions`), so that settings which are refused without the options are accepted with
them (`sampleMisfit_accepted`).
-/

namespace Registrar

namespace Settings

variable {name : String} {tree root : Tree} {entries : List (String × Tree)} {origin : Origin}

/-! ## Changing what names stand for -/

/-- The entries with what each name stands for changed. -/
def mapTrees (change : String → Tree → Tree) (entries : List (String × Tree)) :
    List (String × Tree) :=
  entries.map fun entry => (entry.1, change entry.1 entry.2)

variable {change : String → Tree → Tree}

theorem mapTrees_setEntry (name : String) (tree : Tree) (entries : List (String × Tree)) :
    mapTrees change (setEntry name tree entries) =
      setEntry name (change name tree) (mapTrees change entries) := by
  induction entries with
  | nil => rfl
  | cons entry rest ih =>
    simp only [mapTrees, setEntry, List.map_cons] at ih ⊢
    split
    · rfl
    · split
      · rfl
      · rw [List.map_cons, ih]

theorem lookup_mapTrees (name : String) (entries : List (String × Tree)) :
    (mapTrees change entries).lookup name = (entries.lookup name).map (change name) := by
  induction entries with
  | nil => rfl
  | cons entry rest ih =>
    obtain ⟨first, tree⟩ := entry
    have hcons : mapTrees change ((first, tree) :: rest) =
        (first, change first tree) :: mapTrees change rest := rfl
    rw [hcons, lookup_cons, lookup_cons, ih]
    by_cases hname : name = first
    · subst hname
      rw [if_pos rfl, if_pos rfl]
      rfl
    · rw [if_neg hname, if_neg hname]

theorem Ascending.mapTrees (h : Ascending entries) : Ascending (mapTrees change entries) :=
  List.pairwise_map.mpr h

theorem mapTrees_mapTrees (change' : String → Tree → Tree) (entries : List (String × Tree)) :
    mapTrees change' (mapTrees change entries) =
      mapTrees (fun name tree => change' name (change name tree)) entries :=
  List.map_map

/-! ## Tables in the place of what is none -/

/-- The tree itself, or an empty table in the place of what is no table under one of the names. -/
def tabled (names : List String) (name : String) (tree : Tree) : Tree :=
  if name ∈ names ∧ tree.isTable = false then emptyTable else tree

theorem tabled_of_not_mem {names : List String} (h : name ∉ names) : tabled names name = id :=
  funext fun _ => if_neg fun hnames => h hnames.1

theorem tabled_of_isTable {names : List String} (h : name ∈ names → tree.isTable = true) :
    tabled names name tree = tree :=
  if_neg fun hnames => by
    have hfalse := hnames.2
    rw [h hnames.1] at hfalse
    cases hfalse

theorem tabled_tabled (names names' : List String) (name : String) (tree : Tree) :
    tabled names name (tabled names' name tree) = tabled (names ++ names') name tree := by
  have hempty : emptyTable.isTable = true := rfl
  unfold tabled
  by_cases hname : name ∈ names' <;> cases htable : tree.isTable <;> simp [hname, htable, hempty]

/-- A table with tables under some of its names. -/
def Tree.tabled (names : List String) : Tree → Tree
  | .table origin entries => .table origin (mapTrees (Settings.tabled names) entries)
  | tree => tree

/-- What one of the names stands for, with an empty table laid over it. -/
def withEmpty (name : String) (entries : List (String × Tree)) : Tree :=
  match entries.lookup name with
  | some old => old.merge emptyTable
  | none => emptyTable

theorem mapTrees_tabled_of_forall_ne (h : ∀ entry ∈ entries, entry.1 ≠ name) :
    mapTrees (tabled [name]) entries = entries := by
  refine (List.map_congr_left fun entry hentry => ?_).trans (List.map_id _)
  have hkept := tabled_of_not_mem fun hname => h entry hentry (List.mem_singleton.mp hname)
  rw [hkept]
  rfl

theorem withEmpty_of_forall_ne (h : ∀ entry ∈ entries, entry.1 ≠ name) :
    withEmpty name entries = emptyTable := by
  have hnone : entries.lookup name = none := List.lookup_eq_none_iff.mpr fun entry hentry => by
    simpa using Ne.symm (h entry hentry)
  rw [withEmpty, hnone]

/-- A field that holds a record: it reads an empty table as what the record has already, and does
not ask where a table is from. -/
structure Layout.HoldsRecord {σ τ : Type} (layout : Layout σ) (name : String)
    (read : Tree → Extracted τ) (default : τ) (get : σ → τ) : Prop
    extends layout.Holds name read get where
  empty : ∀ s, get s = default → layout.readEntry s (name, emptyTable) = .ok s
  origin : ∀ s origin entries, layout.readEntry s (name, .table origin entries) =
    layout.readEntry s (name, .table .document entries)

section Records

variable {σ τ : Type} {layout : Layout σ} {read : Tree → Extracted τ} {default : τ} {get : σ → τ}

/-- An empty table laid over a tree leaves a table as it is, but for where it is from. -/
theorem Layout.HoldsRecord.readEntry_merge_emptyTable (h : layout.HoldsRecord name read default get)
    (tree : Tree) (s : σ) :
    layout.readEntry s (name, tree.merge emptyTable) =
      layout.readEntry s (name, tabled [name] name tree) := by
  have hname : name ∈ [name] := List.mem_singleton_self name
  unfold tabled emptyTable Tree.merge
  cases tree with
  | leaf =>
    rw [if_pos ⟨hname, rfl⟩]
  | array =>
    rw [if_pos ⟨hname, rfl⟩]
  | table origin entries =>
    rw [if_neg (fun hnames => Bool.noConfusion hnames.2)]
    exact (h.origin s origin entries).symm

/-- Laying an empty table under the name of a record over the other entries changes how they are
read only where the name stands for no table. -/
theorem Layout.HoldsRecord.readEntries_setEntry (h : layout.HoldsRecord name read default get)
    (hascending : Ascending entries) {s : σ} (hs : get s = default) :
    (setEntry name (withEmpty name entries) entries).foldlM layout.readEntry s =
      (mapTrees (tabled [name]) entries).foldlM layout.readEntry s := by
  induction entries generalizing s with
  | nil =>
    change (layout.readEntry s (name, emptyTable) >>= pure) = .ok s
    rw [h.empty s hs]
    rfl
  | cons entry rest ih =>
    obtain ⟨first, tree⟩ := entry
    obtain ⟨hfirst, hrest⟩ := List.pairwise_cons.mp hascending
    by_cases hlt : name < first
    · have hnone : ∀ entry ∈ (first, tree) :: rest, entry.1 ≠ name := by
        refine List.forall_mem_cons.mpr ⟨hlt.ne', fun entry hentry => ?_⟩
        exact (hlt.trans (hfirst entry hentry)).ne'
      rw [mapTrees_tabled_of_forall_ne hnone, withEmpty_of_forall_ne hnone, setEntry, if_pos hlt,
        List.foldlM_cons, h.empty s hs]
      rfl
    · by_cases hname : name = first
      · subst hname
        have hnone : ∀ entry ∈ rest, entry.1 ≠ name := fun entry hentry => (hfirst entry hentry).ne'
        have hmapped : mapTrees (tabled [name]) ((name, tree) :: rest) =
            (name, tabled [name] name tree) :: rest :=
          congrArg _ (mapTrees_tabled_of_forall_ne hnone)
        have hlaid : withEmpty name ((name, tree) :: rest) = tree.merge emptyTable := by
          rw [withEmpty, lookup_cons, if_pos rfl]
        rw [hmapped, hlaid, setEntry, if_neg hlt, if_pos rfl, List.foldlM_cons, List.foldlM_cons]
        rw [h.readEntry_merge_emptyTable]
      · have hlaid : withEmpty name ((first, tree) :: rest) = withEmpty name rest := by
          rw [withEmpty, lookup_cons, if_neg hname]
          rfl
        have hmapped : mapTrees (tabled [name]) ((first, tree) :: rest) =
            (first, tree) :: mapTrees (tabled [name]) rest := by
          have hkept := tabled_of_not_mem fun hfirst => hname (List.mem_singleton.mp hfirst).symm
          simp only [mapTrees, List.map_cons, hkept, id]
        rw [hmapped, hlaid, setEntry, if_neg hlt, if_neg hname, List.foldlM_cons, List.foldlM_cons]
        cases hread : layout.readEntry s (first, tree) with
        | error why => rfl
        | ok u => exact ih hrest ((h.readEntry_other (Ne.symm hname) hread).trans hs)

end Records

/-! ## No options -/

theorem layout_holdsRecord_input :
    layout.HoldsRecord "input" (inputLayout.read {}) {} Settings.input where
  toHolds := layout_holds.2.1
  empty := by
    rintro s hs
    obtain ⟨log, input, output⟩ := s
    obtain rfl : input = {} := hs
    rfl
  origin _ _ _ := rfl

theorem layout_holdsRecord_output :
    layout.HoldsRecord "output" (outputLayout.read {}) {} Settings.output where
  toHolds := layout_holds.2.2
  empty := by
    rintro s hs
    obtain ⟨log, input, output⟩ := s
    obtain rfl : output = {} := hs
    rfl
  origin _ _ _ := rfl

/-- What options of which none is given set: two tables without entries. -/
theorem toTree_noOptions :
    ({} : Options).toTree = .table .document [("input", emptyTable), ("output", emptyTable)] := by
  rfl

/-- Where options are not given, an empty table takes the place of a feed or an output that is no
table, and everything else stays as the other sources have it. -/
theorem ofTree_merge_noOptions (htable : root.isTable = true) (hsorted : root.Sorted) :
    ofTree (root.merge ({} : Options).toTree) = ofTree (root.tabled ["input", "output"]) := by
  obtain ⟨origin, entries, rfl⟩ := Tree.eq_table_of_isTable htable
  have hascending := (Tree.sorted_table.mp hsorted).1
  let fed := setEntry "input" (withEmpty "input" entries) entries
  have hfed : Ascending fed := ascending_setEntry hascending
  have hmerge : (Tree.table origin entries).merge ({} : Options).toTree =
      .table .document (setEntry "output" (withEmpty "output" fed) fed) := by
    rw [toTree_noOptions]
    simp only [Tree.merge, mergeEntries]
    rfl
  have hchanged : mapTrees (tabled ["output"]) fed =
      setEntry "input" (withEmpty "input" (mapTrees (tabled ["output"]) entries))
        (mapTrees (tabled ["output"]) entries) := by
    have hkept : tabled ["output"] "input" = id := tabled_of_not_mem (by decide)
    have hsame : withEmpty "input" (mapTrees (tabled ["output"]) entries) =
        withEmpty "input" entries := by
      rw [withEmpty, lookup_mapTrees, hkept, Option.map_id]
      rfl
    rw [mapTrees_setEntry, hkept, hsame]
    rfl
  have hboth : mapTrees (tabled ["input"]) (mapTrees (tabled ["output"]) entries) =
      mapTrees (tabled ["input", "output"]) entries := by
    rw [mapTrees_mapTrees]
    exact congrArg (mapTrees · entries) (funext fun name => funext (tabled_tabled _ _ name))
  calc ofTree ((Tree.table origin entries).merge ({} : Options).toTree)
      = (setEntry "output" (withEmpty "output" fed) fed).foldlM layout.readEntry {} := by
        rw [hmerge]
        rfl
    _ = (mapTrees (tabled ["output"]) fed).foldlM layout.readEntry {} :=
        layout_holdsRecord_output.readEntries_setEntry hfed rfl
    _ = (mapTrees (tabled ["input"]) (mapTrees (tabled ["output"]) entries)).foldlM
          layout.readEntry {} := by
        rw [hchanged]
        exact layout_holdsRecord_input.readEntries_setEntry hascending.mapTrees rfl
    _ = ofTree (.table origin (mapTrees (tabled ["input", "output"]) entries)) := by
        rw [hboth]
        rfl

/-! ## Loading without options -/

variable {l : Loader} {s : Surroundings} {w : World} {t : FileTree}

/-- Loading with options of which none is given reads the settings as if an empty table stood in the
place of a feed or an output that is no table. -/
theorem Loader.load_run_noOptions (h : l.overrides = [({} : Options).toTree]) :
    (l.load s : StateM World (Except LoadError Settings)).run w =
      (do
        let front ← l.frontTree s w.tree
        (ofTree (front.tabled ["input", "output"])).mapError .misfit, w) := by
  have hown : l.overridesSource = .ok ({} : Options).toTree := by
    rw [Loader.overridesSource]
    rw [h]
    rfl
  rw [Loader.load_run, hown]
  cases hfront : l.frontTree s w.tree with
  | error why => rfl
  | ok front =>
    obtain ⟨htable, hsorted⟩ := Loader.table_of_frontTree hfront
    exact congrArg (fun loaded => (loaded.mapError LoadError.misfit, w))
      (ofTree_merge_noOptions htable hsorted)

/-- Loading without any options reads the settings as files and environment have them. -/
theorem Loader.load_run_nil (h : l.overrides = []) :
    (l.load s : StateM World (Except LoadError Settings)).run w =
      (do
        let front ← l.frontTree s w.tree
        (ofTree front).mapError .misfit, w) := by
  have hown : l.overridesSource = .ok emptyTable := by
    rw [Loader.overridesSource]
    rw [h]
    rfl
  rw [Loader.load_run, hown]
  cases hfront : l.frontTree s w.tree with
  | error why => rfl
  | ok front =>
    obtain ⟨origin, entries, rfl⟩ :=
      Tree.eq_table_of_isTable (Loader.table_of_frontTree hfront).1
    have hmerge : ofTree ((Tree.table origin entries).merge emptyTable) =
        ofTree (.table origin entries) := by
      rw [emptyTable, Tree.merge]
      rfl
    exact congrArg (fun loaded => (loaded.mapError LoadError.misfit, w)) hmerge

theorem Tree.tabled_of_at? {names : List String}
    (h : ∀ name ∈ names, ∀ tree, root.at? [name] = some tree → tree.isTable = true)
    (hsorted : root.Sorted) : root.tabled names = root := by
  cases root with
  | leaf => rfl
  | array => rfl
  | table origin entries =>
    have hnodup := (Tree.sorted_table.mp hsorted).1.nodup
    refine congrArg (Tree.table origin) ((List.map_congr_left fun entry hentry => ?_).trans
      (List.map_id _))
    have hkept : Settings.tabled names entry.1 entry.2 = entry.2 := by
      refine tabled_of_isTable fun hname => h entry.1 hname entry.2 ?_
      rw [Tree.at?_table_singleton]
      exact lookup_of_mem hnodup hentry
    rw [hkept]
    rfl

/-- Options of which none is given change nothing where files and environment have a table, or
nothing, for the feed and for the output. -/
theorem Loader.load_noOptions (l : Loader) (s : Surroundings) (w : World)
    (h : ∀ front, l.frontTree s w.tree = .ok front → ∀ name ∈ ["input", "output"],
      ∀ tree, front.at? [name] = some tree → tree.isTable = true) :
    (({ l with overrides := [({} : Options).toTree] } : Loader).load s :
      StateM World (Except LoadError Settings)).run w =
      ((({ l with overrides := [] } : Loader).load s :
        StateM World (Except LoadError Settings)).run w) := by
  rw [Loader.load_run_noOptions rfl, Loader.load_run_nil rfl]
  change (l.frontTree s w.tree >>= _, w) = (l.frontTree s w.tree >>= _, w)
  cases hfront : l.frontTree s w.tree with
  | error why => rfl
  | ok front =>
    exact congrArg (fun root => ((ofTree root).mapError LoadError.misfit, w))
      (Tree.tabled_of_at? (h front hfront) (Loader.table_of_frontTree hfront).2)

/-- A feed or an output that is a single value is refused where nothing replaces it. -/
theorem ofTree_ne_ok_of_leaf (hsorted : root.Sorted) {value : Scalar}
    (hname : name ∈ ["input", "output"]) (hleaf : root.at? [name] = some (.leaf origin value))
    (c : Settings) : ofTree root ≠ .ok c := by
  intro hread
  cases root with
  | leaf => cases hleaf
  | array => cases hleaf
  | table _ entries =>
    rw [Tree.at?_table_singleton] at hleaf
    have hnodup := (Tree.sorted_table.mp hsorted).1.nodup
    rcases List.mem_pair.mp hname with rfl | rfl
    · have hgiven := layout_holds.2.1.given_entries hnodup hread
      rw [hleaf] at hgiven
      cases hgiven
    · have hgiven := layout_holds.2.2.given_entries hnodup hread
      rw [hleaf] at hgiven
      cases hgiven

/-- A settings file with a number for the feed. -/
def sampleMisfit : World where
  tree := { entries := [(["annogen.toml"], .file (Text.encode "input = 5\n"))], here := [] }
  input := []
  output := []
  errors := ""

/-- A loader of the settings file where the program runs. -/
def sampleMisfitLoader (overrides : List Tree) : Loader where
  profile := .development
  searchPaths := [⟨"."⟩]
  overrides := overrides

/-- The file is refused by itself, and accepted with options of which none is given. -/
theorem sampleMisfit_accepted :
    (∀ c : Settings, (((sampleMisfitLoader []).load ⟨[], ⟨"/"⟩, none⟩ :
        StateM World (Except LoadError Settings)).run sampleMisfit).1 ≠ .ok c) ∧
      (((sampleMisfitLoader [({} : Options).toTree]).load ⟨[], ⟨"/"⟩, none⟩ :
        StateM World (Except LoadError Settings)).run sampleMisfit).1 = .ok {} := by
  refine ⟨fun c hload => ?_, by decide +kernel⟩
  have hrefused : (((sampleMisfitLoader []).load ⟨[], ⟨"/"⟩, none⟩ :
      StateM World (Except LoadError Settings)).run sampleMisfit).1.isOk = false := by
    decide +kernel
  rw [hload] at hrefused
  cases hrefused

end Settings

end Registrar
