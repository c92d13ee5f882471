import Registrar.FileTree
import Registrar.Proofs.Settings.Setting
import Registrar.Proofs.Settings.Sources

/-!
# The layers of loaded settings

Which files a loader takes can be said without its search (`Loader.settingsFiles`, `search_run`):
those of the profile in the directories up to the first with a main file, and that main file. When
these files, the environment and what the program sets are well typed, loading succeeds, and every
setting has the value that the last of these sources to mention it gives it
(`Loader.load_last_mention`).
-/

namespace Registrar.Settings

/-! ## Files -/

/-- The name of the settings file of a profile. -/
def profileFileName : Profile → String
  | .development => "annogen.development.toml"
  | .production => "annogen.production.toml"
  | .custom name => "annogen." ++ name ++ ".toml"

/-- The settings files of searched directories: those of the profile up to the first directory with
a main file, and then that main file. -/
def foundFiles (t : FileTree) (profile : Profile) (directories : List Path) : List Path :=
  let main (directory : Path) := directory.join ⟨"annogen.toml"⟩
  let before := directories.takeWhile fun directory => !t.isPresent (main directory)
  let first := (directories.find? fun directory => t.isPresent (main directory)).toList
  ((before ++ first).map (·.join ⟨profileFileName profile⟩)).filter t.isPresent ++ first.map main

/-- The directories that are searched: those of the loader, or else the one where the program runs
and the program's own one among the settings of the user. -/
def Loader.searched (l : Loader) (s : Surroundings) : List Path :=
  match l.searchPaths, s.configDirectory with
  | [], none => [s.workingDirectory]
  | [], some directory => [s.workingDirectory, directory.join ⟨"annogen"⟩]
  | directories, _ => directories

/-- The settings files of a loader. -/
def Loader.settingsFiles (l : Loader) (s : Surroundings) (t : FileTree) : List Path :=
  match l.file with
  | some path => [path]
  | none => foundFiles t l.profile (l.searched s)

/-- The settings in a file, where it is a document of settings. -/
def settings? (t : FileTree) (path : Path) : Option Tree :=
  (t.read path).toOption >>= fun bytes =>
    Text.decode? bytes >>= Toml.read >>= Tree.unwrapEntries?

/-- What the environment says, when it is asked and its texts are whole. -/
def Loader.environment? (l : Loader) (s : Surroundings) : Option (List Tree) :=
  if l.usesEnvironment then (ofEnvironment? s.environment).map ([·]) else some []

theorem profileFile_eq (profile : Profile) (directory : Path) :
    profileFile profile directory = directory.join ⟨profileFileName profile⟩ := by
  cases profile <;> rfl

theorem Loader.directories_eq (l : Loader) (s : Surroundings) : l.directories s = l.searched s := by
  rw [Loader.directories, Loader.searched]
  cases l.searchPaths with
  | nil => cases s.configDirectory <;> rfl
  | cons => rfl

theorem bind_run {α β : Type} (first : StateM World α) (next : α → StateM World β) (w : World) :
    (first >>= next).run w = (next (first.run w).1).run (first.run w).2 :=
  rfl

theorem isPresent_bind_run {β : Type} (path : Path) (next : Bool → StateM World β) (w : World) :
    (Disk.isPresent path >>= next).run w = (next (w.tree.isPresent path)).run w :=
  rfl

theorem read_run (path : Path) (w : World) :
    (Disk.read path : StateM World (Except OsError Text.Bytes)).run w = (w.tree.read path, w) :=
  rfl

theorem foundFiles_cons (t : FileTree) (profile : Profile) (directory : Path) (rest : List Path) :
    foundFiles t profile (directory :: rest) =
      (if t.isPresent (profileFile profile directory) then [profileFile profile directory]
        else []) ++
      (if t.isPresent (mainFile directory) then [mainFile directory]
        else foundFiles t profile rest) := by
  rw [profileFile_eq, mainFile]
  unfold foundFiles
  cases hmain : t.isPresent (directory.join ⟨"annogen.toml"⟩) with
  | true => simp [hmain, List.filter_cons]
  | false =>
    cases hown : t.isPresent (directory.join ⟨profileFileName profile⟩) <;>
    simp [hmain, hown]

/-- The search takes one directory after the other, and finds the files of the profile before any
main file. -/
theorem search_run (profile : Profile) (directories : List Path) (w : World) :
    (search profile directories : StateM World (List Path)).run w =
      (foundFiles w.tree profile directories, w) := by
  induction directories with
  | nil => rfl
  | cons directory rest ih =>
    rw [search, foundFiles_cons, isPresent_bind_run, isPresent_bind_run]
    split
    · rfl
    · rw [bind_run, ih]
      rfl

/-- The source that a file of a tree holds. -/
def sourceIn (t : FileTree) (path : Path) : Source :=
  match t.read path with
  | .error _ => .ok emptyTable
  | .ok bytes =>
    match Text.decode? bytes >>= Toml.read >>= Tree.unwrapEntries? with
    | some tree => .ok tree
    | none => .error .unreadable

theorem fileSource_run (path : Path) (w : World) :
    (fileSource path : StateM World Source).run w = (sourceIn w.tree path, w) := by
  rw [fileSource, sourceIn]
  rw [bind_run, read_run]
  cases w.tree.read path with
  | error why => rfl
  | ok bytes =>
    dsimp only
    cases Text.decode? bytes >>= Toml.read >>= Tree.unwrapEntries? <;> rfl

theorem fileSources_run (files : List Path) (w : World) :
    (files.mapM fileSource : StateM World (List Source)).run w =
      (files.map (sourceIn w.tree), w) := by
  induction files with
  | nil => rfl
  | cons path files ih =>
    rw [List.mapM_cons, bind_run, fileSource_run]
    dsimp only
    rw [bind_run, ih]
    rfl

theorem sourceIn_of_settings? {t : FileTree} {path : Path} {tree : Tree}
    (h : settings? t path = some tree) : sourceIn t path = .ok tree := by
  rw [settings?] at h
  rw [sourceIn]
  cases hread : t.read path with
  | error why =>
    rw [hread] at h
    cases h
  | ok bytes =>
    rw [hread] at h
    have hdocument : (Text.decode? bytes >>= Toml.read >>= Tree.unwrapEntries?) = some tree := h
    dsimp only
    rw [hdocument]

/-- What a file says is a table in its order. -/
theorem table_of_sourceIn {t : FileTree} {path : Path} {tree : Tree}
    (h : sourceIn t path = .ok tree) : tree.isTable = true ∧ tree.Sorted := by
  rw [sourceIn] at h
  split at h
  · obtain rfl := Except.ok.inj h
    exact ⟨rfl, Tree.sorted_empty .document⟩
  · split at h
    · next hdocument =>
      obtain rfl := Except.ok.inj h
      obtain ⟨read, hread, hunwrap⟩ := Option.bind_eq_some_iff.mp hdocument
      obtain ⟨text, -, hread⟩ := Option.bind_eq_some_iff.mp hread
      exact ⟨isTable_of_unwrapEntries? (Toml.isTable_of_read hread) hunwrap,
        sorted_of_unwrapEntries? (Toml.sorted_read hread) hunwrap⟩
    · cases h

theorem map_sourceIn {t : FileTree} {files : List Path} {trees : List Tree}
    (h : files.mapM (settings? t) = some trees) : files.map (sourceIn t) = trees.map .ok := by
  induction files generalizing trees with
  | nil =>
    obtain rfl := Option.some.inj h
    rfl
  | cons path files ih =>
    rw [List.mapM_cons] at h
    obtain ⟨tree, htree, h⟩ := Option.bind_eq_some_iff.mp h
    obtain ⟨rest, hrest, h⟩ := Option.bind_eq_some_iff.mp h
    obtain rfl := Option.some.inj h
    rw [List.map_cons, sourceIn_of_settings? htree, ih hrest, List.map_cons]

theorem sorted_of_mem_settings? {t : FileTree} {files : List Path} {trees : List Tree}
    (h : files.mapM (settings? t) = some trees) : ∀ tree ∈ trees, tree.Sorted := by
  intro tree htree
  have hmem : Except.ok tree ∈ files.map (sourceIn t) := by
    rw [map_sourceIn h]
    exact List.mem_map_of_mem htree
  obtain ⟨path, -, hpath⟩ := List.mem_map.mp hmem
  exact (table_of_sourceIn hpath).2

theorem isPresent_of_settings? {t : FileTree} {path : Path} {tree : Tree}
    (h : settings? t path = some tree) : t.isPresent path = true := by
  rw [settings?, FileTree.read] at h
  rw [FileTree.isPresent]
  cases hfind : t.find? path with
  | error why =>
    rw [hfind] at h
    cases h
  | ok node => rfl

/-! ## Sources -/

variable {l : Loader} {s : Surroundings} {w : World} {t : FileTree}
  {fileTrees envTrees : List Tree}

/-- The files that a loader takes from a tree of files. -/
def Loader.filesIn (l : Loader) (s : Surroundings) (t : FileTree) : Except LoadError (List Path) :=
  match l.file with
  | none => .ok (foundFiles t l.profile (l.searched s))
  | some path =>
    if !t.isPresent path then .error (.fileNotFound path)
    else
      let extension := path.extension.getD ""
      if extension = "toml" then .ok [path] else .error (.unknownFormat extension)

theorem Loader.files_run (l : Loader) (s : Surroundings) (w : World) :
    (l.files s : StateM World (Except LoadError (List Path))).run w =
      (l.filesIn s w.tree, w) := by
  rw [Loader.files, Loader.filesIn]
  cases l.file with
  | none =>
    dsimp only
    rw [bind_run, search_run, l.directories_eq]
    rfl
  | some path =>
    dsimp only
    rw [isPresent_bind_run]
    split
    · rfl
    · split <;> rfl

/-- The sources in front of what the program sets. -/
def Loader.frontSources (l : Loader) (s : Surroundings) (t : FileTree) :
    Except LoadError (List Source) := do
  let files ← l.filesIn s t
  let trees ← l.environmentTrees s
  return files.map (sourceIn t) ++ trees.map .ok

/-- What these sources say together. -/
def Loader.frontTree (l : Loader) (s : Surroundings) (t : FileTree) : Source :=
  l.frontSources s t >>= layer emptyTable

theorem Loader.sources_run (l : Loader) (s : Surroundings) (w : World) :
    (l.sources s : StateM World (Except LoadError (List Source))).run w =
      ((· ++ [l.overridesSource]) <$> l.frontSources s w.tree, w) := by
  rw [Loader.sources, Loader.frontSources]
  rw [bind_run, Loader.files_run]
  dsimp only
  cases l.filesIn s w.tree with
  | error why => rfl
  | ok files =>
    dsimp only
    rw [bind_run, fileSources_run]
    cases l.environmentTrees s <;> rfl

/-- Loading lays what the program sets over what the other sources say together, and reads the
settings from that. It leaves the world as it is. -/
theorem Loader.load_run (l : Loader) (s : Surroundings) (w : World) :
    (l.load s : StateM World (Except LoadError Settings)).run w =
      (do
        let front ← l.frontTree s w.tree
        let own ← l.overridesSource
        (ofTree (front.merge own)).mapError .misfit, w) := by
  rw [Loader.load, Loader.frontTree]
  rw [bind_run, Loader.sources_run]
  cases l.frontSources s w.tree with
  | error why => rfl
  | ok sources =>
    change (layer emptyTable (sources ++ [l.overridesSource]) >>= _, w) = _
    rw [layer_append, bind_assoc]
    refine congrArg (·, w) (congrArg _ (funext fun front => ?_))
    cases l.overridesSource <;> rfl

/-- What the environment says is a table in its order. -/
theorem Loader.table_of_environmentTrees (h : l.environmentTrees s = .ok envTrees) :
    ∀ tree ∈ envTrees, tree.isTable = true ∧ tree.Sorted := by
  rw [Loader.environmentTrees] at h
  split at h
  · obtain rfl := Except.ok.inj h
    exact nofun
  · split at h
    · next tree htree =>
      obtain rfl := Except.ok.inj h
      exact List.forall_mem_singleton.mpr
        ⟨isTable_of_ofEnvironment? htree, sorted_of_ofEnvironment? htree⟩
    · cases h

theorem Loader.environmentTrees_eq (h : l.environment? s = some envTrees) :
    l.environmentTrees s = .ok envTrees := by
  rw [Loader.environment?] at h
  rw [Loader.environmentTrees]
  cases huses : l.usesEnvironment with
  | false =>
    rw [huses] at h
    exact congrArg _ (Option.some.inj h)
  | true =>
    rw [huses] at h
    obtain ⟨tree, htree, rfl⟩ := Option.map_eq_some_iff.mp h
    rw [htree]
    rfl

/-- What files and environment say together is a table in its order. -/
theorem Loader.table_of_frontTree {front : Tree} (h : l.frontTree s t = .ok front) :
    front.isTable = true ∧ front.Sorted := by
  obtain ⟨sources, hsources, h⟩ := bind_eq_ok_iff.mp h
  obtain ⟨files, -, hsources⟩ := bind_eq_ok_iff.mp hsources
  obtain ⟨trees, htrees, hsources⟩ := bind_eq_ok_iff.mp hsources
  obtain rfl := Except.ok.inj hsources
  refine table_of_layer ⟨rfl, Tree.sorted_empty .document⟩ (fun tree htree => ?_) h
  rcases List.mem_append.mp htree with htree | htree
  · obtain ⟨path, -, hpath⟩ := List.mem_map.mp htree
    exact table_of_sourceIn hpath
  · obtain ⟨found, hfound, hok⟩ := List.mem_map.mp htree
    obtain rfl := Except.ok.inj hok
    exact Loader.table_of_environmentTrees htrees found hfound

/-- What files and environment say together, when they are all there. -/
theorem Loader.frontTree_eq (hextension : ∀ path, l.file = some path → path.extension = some "toml")
    (hfiles : (l.settingsFiles s t).mapM (settings? t) = some fileTrees)
    (henv : l.environment? s = some envTrees) :
    l.frontTree s t = .ok ((fileTrees ++ envTrees).foldl Tree.merge emptyTable) := by
  have hfound : l.filesIn s t = .ok (l.settingsFiles s t) := by
    rw [Loader.filesIn, Loader.settingsFiles] at *
    cases hfile : l.file with
    | none => rfl
    | some path =>
      rw [hfile] at hfiles
      obtain ⟨tree, htree, -⟩ := Option.bind_eq_some_iff.mp hfiles
      dsimp only
      rw [isPresent_of_settings? htree, hextension path hfile]
      rfl
  have hsources : l.frontSources s t = .ok ((fileTrees ++ envTrees).map .ok) := by
    rw [Loader.frontSources]
    rw [hfound, Loader.environmentTrees_eq henv, List.map_append, ← map_sourceIn hfiles]
    rfl
  rw [Loader.frontTree]
  rw [hsources]
  exact layer_ok emptyTable (fileTrees ++ envTrees)

/-- What the program sets, laid together. -/
def Loader.overridesTree (l : Loader) : Tree :=
  l.overrides.foldl Tree.merge emptyTable

theorem Loader.overridesSource_eq (h : ∀ tree ∈ l.overrides, tree.isTable = true) :
    l.overridesSource = .ok l.overridesTree := by
  have htables : l.overrides.map tableSource = l.overrides.map .ok := by
    refine List.map_congr_left fun tree htree => ?_
    obtain ⟨origin, entries, rfl⟩ := Tree.eq_table_of_isTable (h tree htree)
    rfl
  rw [Loader.overridesSource, htables, layer_ok]
  rfl

/-- All sources laid over each other: those in front, and what the program sets. -/
def Loader.layers (l : Loader) (trees : List Tree) : Tree :=
  (trees.foldl Tree.merge emptyTable).merge l.overridesTree

/-! ## The last mention -/

section Layers

variable {trees : List Tree} {path : List String}

theorem Loader.sorted_layers (h : ∀ tree ∈ trees ++ l.overrides, tree.Sorted) :
    (l.layers trees).Sorted := by
  have hempty := Tree.sorted_empty .document
  have hfront := hempty.foldl_merge fun tree htree => h tree (List.mem_append_left _ htree)
  have hown := hempty.foldl_merge fun tree htree => h tree (List.mem_append_right _ htree)
  exact hfront.merge hown

/-- What all sources say together at the end of a clear path is what the last of them to have it
says. That the program's own sources are laid together first makes no difference there. -/
theorem Loader.at?_layers (hpath : path ≠ [])
    (htrees : ∀ tree ∈ trees ++ l.overrides, tree.Sorted ∧ tree.Clear path) :
    (l.layers trees).Clear path ∧
      (l.layers trees).at? path = last? path (trees ++ l.overrides) := by
  obtain ⟨hempty, hnone⟩ := Tree.clear_emptyTable hpath
  have hoverrides : ∀ tree ∈ l.overrides, tree.Sorted ∧ tree.Clear path := fun tree htree =>
    htrees tree (List.mem_append_right _ htree)
  obtain ⟨hfront, hfrontAt⟩ := hempty.at?_foldl_merge fun tree htree =>
    htrees tree (List.mem_append_left _ htree)
  obtain ⟨hown, hownAt⟩ := hempty.at?_foldl_merge hoverrides
  have hsorted : l.overridesTree.Sorted :=
    (Tree.sorted_empty .document).foldl_merge fun tree htree => (hoverrides tree htree).1
  obtain ⟨hclear, hat⟩ := hfront.at?_merge hown hsorted
  refine ⟨hclear, ?_⟩
  rw [Loader.layers, Loader.overridesTree]
  rw [hat, hownAt, hfrontAt, hnone, Option.or_none, Option.or_none, last?_append]

end Layers

/-- Well-typed sources laid over each other make up settings, each with the value that the last
source to mention it gives it. -/
theorem Loader.exists_ofTree_layers {trees : List Tree}
    (hsorted : ∀ tree ∈ trees ++ l.overrides, tree.Sorted)
    (htyped : ∀ tree ∈ trees ++ l.overrides, tree.WellTyped) :
    ∃ c, ofTree (l.layers trees) = .ok c ∧
      ∀ setting : Setting, setting.valueIn (trees ++ l.overrides) = some (setting.get c) := by
  have hlayers := fun setting : Setting => Loader.at?_layers setting.path_ne_nil fun tree htree =>
    ⟨hsorted tree htree, (htyped tree htree).clear setting⟩
  obtain ⟨c, hc, hvalues⟩ := Tree.exists_ofTree_of_said? (Loader.sorted_layers hsorted)
    (fun setting => (hlayers setting).1) fun setting below hbelow => by
      rw [(hlayers setting).2] at hbelow
      obtain ⟨tree, htree, hat⟩ := mem_of_last? hbelow
      exact (htyped tree htree).values setting below hat
  refine ⟨c, hc, fun setting => ?_⟩
  rw [Setting.valueIn, ← (hlayers setting).2]
  exact hvalues setting

/-- Loading sources that are all there reads the settings from what they say in layers. -/
theorem Loader.load_run_layers
    (hextension : ∀ path, l.file = some path → path.extension = some "toml")
    (hfiles : (l.settingsFiles s w.tree).mapM (settings? w.tree) = some fileTrees)
    (henv : l.environment? s = some envTrees)
    (htables : ∀ tree ∈ l.overrides, tree.isTable = true) :
    (l.load s : StateM World (Except LoadError Settings)).run w =
      ((ofTree (l.layers (fileTrees ++ envTrees))).mapError .misfit, w) := by
  rw [Loader.load_run, Loader.frontTree_eq hextension hfiles henv,
    Loader.overridesSource_eq htables]
  rfl

theorem Loader.sorted_of_mem_front
    (hfiles : (l.settingsFiles s t).mapM (settings? t) = some fileTrees)
    (henv : l.environment? s = some envTrees) : ∀ tree ∈ fileTrees ++ envTrees, tree.Sorted := by
  intro tree htree
  rcases List.mem_append.mp htree with htree | htree
  · exact sorted_of_mem_settings? hfiles tree htree
  · exact (Loader.table_of_environmentTrees (Loader.environmentTrees_eq henv) tree htree).2

theorem Tree.WellTyped.isTable {tree : Tree} (h : tree.WellTyped) : tree.isTable = true :=
  h.groups [] List.mem_cons_self tree rfl

end Registrar.Settings
