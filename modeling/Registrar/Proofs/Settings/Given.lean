import Registrar.Proofs.Settings.Loading

/-!
# Options that are given

Options are one more source, laid over files and environment. Their tree has a value in the places
of the options that are given and nothing anywhere else (`Options.at?_toTree`). So these options
decide on their settings, and leave all other settings to the other sources (`Options.load_given`).
-/

namespace Registrar

open Settings

namespace Options

variable {o : Options} {name : String} {path : List String}

/-- What the options that are given set. -/
def given? (o : Options) : (setting : Setting) → Option setting.Value
  | .feed => o.feed.map some
  | .dryRun => if o.dryRun then some true else none
  | .check => if o.check then some true else none
  | .level =>
    match o.verbosity with
    | 0 => none
    | 1 => some Level.debug
    | _ => some Level.trace
  | _ => none

/-- What these options are in a tree. -/
def scalar? (o : Options) : Setting → Option Scalar
  | .feed => o.feed.map fun path => .text path.text
  | .dryRun => if o.dryRun then some (.bool true) else none
  | .check => if o.check then some (.bool true) else none
  | .level =>
    match o.verbosity with
    | 0 => none
    | 1 => some (.text "debug")
    | _ => some (.text "trace")
  | _ => none

theorem given?_eq (o : Options) (setting : Setting) :
    o.given? setting = (o.scalar? setting).bind fun value =>
      setting.said? (.leaf .document value) := by
  obtain ⟨config, feed, dryRun, check, verbosity⟩ := o
  cases setting with
  | feed => cases feed <;> rfl
  | dryRun => cases dryRun <;> rfl
  | check => cases check <;> rfl
  | level => rcases verbosity with _ | _ | more <;> rfl
  | _ => rfl

/-- Every option that is given has a value of its type. -/
theorem exists_said? {setting : Setting} {value : Scalar} (h : o.scalar? setting = some value) :
    ∃ found, setting.said? (.leaf .document value) = some found := by
  obtain ⟨config, feed, dryRun, check, verbosity⟩ := o
  cases setting with
  | feed =>
    obtain ⟨path, -, rfl⟩ := Option.map_eq_some_iff.mp h
    exact ⟨some path, rfl⟩
  | dryRun =>
    cases dryRun <;> cases h
    exact ⟨true, rfl⟩
  | check =>
    cases check <;> cases h
    exact ⟨true, rfl⟩
  | level =>
    rcases verbosity with _ | _ | more <;> cases h
    · exact ⟨.debug, rfl⟩
    · exact ⟨.trace, rfl⟩
  | _ => cases h

/-! ## The tree of the options -/

/-- An entry for an option that is given. -/
def entry? (o : Options) (setting : Setting) (name : String) : Option (String × Tree) :=
  (o.scalar? setting).map fun value => (name, .leaf .document value)

theorem at?_table (name : String) (path : List String) (entries : List (Option (String × Tree))) :
    (table entries).at? (name :: path) =
      ((entries.filterMap id).reverse.lookup name).bind (Tree.at? path) := by
  rw [table, tableOf, Tree.at?, lookup_gathered, List.lookup_nil, Option.or_none]

theorem at?_input (o : Options) (path : List String) :
    o.toTree.at? ("input" :: path) = (table [o.entry? .feed "feed"]).at? path := by
  obtain ⟨config, feed, dryRun, check, verbosity⟩ := o
  rw [toTree, at?_table]
  rcases verbosity with _ | _ | more <;> cases feed <;> rfl

theorem at?_output (o : Options) (path : List String) :
    o.toTree.at? ("output" :: path) =
      (table [o.entry? .dryRun "dry_run", o.entry? .check "check"]).at? path := by
  obtain ⟨config, feed, dryRun, check, verbosity⟩ := o
  rw [toTree, at?_table]
  rcases verbosity with _ | _ | more <;> cases dryRun <;> cases check <;> rfl

/-- The log has no table unless a level was asked for. -/
theorem at?_logging (o : Options) (path : List String) :
    o.toTree.at? ("logging" :: path) =
      (o.scalar? .level).bind fun value =>
        (table [some ("level", .leaf .document value)]).at? path := by
  obtain ⟨config, feed, dryRun, check, verbosity⟩ := o
  rw [toTree, at?_table]
  rcases verbosity with _ | _ | more <;> rfl

/-- Options say what is given, and nothing of any other setting. -/
theorem at?_toTree (o : Options) (setting : Setting) :
    o.toTree.at? setting.path = (o.scalar? setting).map (.leaf .document) := by
  cases setting with
  | feed =>
    rw [Setting.path, at?_input, at?_table, entry?]
    cases o.scalar? .feed <;> rfl
  | dryRun =>
    rw [Setting.path, at?_output, at?_table, entry?, entry?]
    cases o.scalar? .dryRun <;> cases o.scalar? .check <;> rfl
  | check =>
    rw [Setting.path, at?_output, at?_table, entry?, entry?]
    cases o.scalar? .dryRun <;> cases o.scalar? .check <;> rfl
  | baseDir =>
    rw [Setting.path, at?_output, at?_table, entry?, entry?]
    cases o.scalar? .dryRun <;> cases o.scalar? .check <;> rfl
  | _ =>
    rw [Setting.path, at?_logging]
    cases o.scalar? .level <;> rfl

/-- The tree of the options is well typed, whatever is given. -/
theorem wellTyped_toTree (o : Options) : o.toTree.WellTyped := by
  refine ⟨fun path hpath below hbelow => ?_, fun setting below hbelow => ?_⟩
  · simp only [groups, List.mem_cons, List.not_mem_nil, or_false] at hpath
    rcases hpath with rfl | rfl | rfl | rfl | rfl | rfl
    · obtain rfl := Option.some.inj hbelow
      rfl
    · rw [at?_logging] at hbelow
      obtain ⟨value, -, hbelow⟩ := Option.bind_eq_some_iff.mp hbelow
      obtain rfl := Option.some.inj hbelow
      rfl
    · rw [at?_logging] at hbelow
      obtain ⟨value, -, hbelow⟩ := Option.bind_eq_some_iff.mp hbelow
      cases hbelow
    · rw [at?_logging] at hbelow
      obtain ⟨value, -, hbelow⟩ := Option.bind_eq_some_iff.mp hbelow
      cases hbelow
    · rw [at?_input] at hbelow
      obtain rfl := Option.some.inj hbelow
      rfl
    · rw [at?_output] at hbelow
      obtain rfl := Option.some.inj hbelow
      rfl
  · rw [at?_toTree] at hbelow
    obtain ⟨value, hvalue, rfl⟩ := Option.map_eq_some_iff.mp hbelow
    exact exists_said? hvalue

/-! ## Loading with options -/

/-- Laid over other sources, options decide on what is given and leave the rest. -/
theorem valueIn_append_toTree (o : Options) (setting : Setting) (trees : List Tree) :
    setting.valueIn (trees ++ [o.toTree]) = (o.given? setting).or (setting.valueIn trees) := by
  have hlast : last? setting.path [o.toTree] = (o.scalar? setting).map (.leaf .document) := by
    rw [last?_cons, ← at?_toTree]
    rfl
  rw [Setting.valueIn, Setting.valueIn, last?_append, hlast, given?_eq]
  cases hvalue : o.scalar? setting with
  | none => rfl
  | some value =>
    obtain ⟨found, hfound⟩ := exists_said? hvalue
    rw [Option.map_some, Option.some_or, Option.bind_some, hfound, Option.some_or]
    exact hfound

variable {l : Loader} {s : Surroundings} {w : World} {fileTrees envTrees : List Tree}

/-- When files and environment are there and well typed, loading with any options succeeds. The
options that are given decide on their settings, and all other settings have the values that files
and environment give them. -/
theorem load_given (hoverrides : l.overrides = [o.toTree])
    (hextension : ∀ path, l.file = some path → path.extension = some "toml")
    (hfiles : (l.settingsFiles s w.tree).mapM (settings? w.tree) = some fileTrees)
    (henv : l.environment? s = some envTrees)
    (htyped : ∀ tree ∈ fileTrees ++ envTrees, tree.WellTyped) :
    ∃ c : Settings,
      (l.load s : StateM World (Except LoadError Settings)).run w = (.ok c, w) ∧
        ∀ setting : Setting,
          (o.given? setting).or (setting.valueIn (fileTrees ++ envTrees)) =
            some (setting.get c) := by
  have htypedAll : ∀ tree ∈ fileTrees ++ envTrees ++ l.overrides, tree.WellTyped := by
    rw [hoverrides]
    exact List.forall_mem_append.mpr ⟨htyped, List.forall_mem_singleton.mpr o.wellTyped_toTree⟩
  have hsortedAll : ∀ tree ∈ fileTrees ++ envTrees ++ l.overrides, tree.Sorted := by
    rw [hoverrides]
    exact List.forall_mem_append.mpr
      ⟨Loader.sorted_of_mem_front hfiles henv, List.forall_mem_singleton.mpr o.sorted_toTree⟩
  obtain ⟨c, hc, hvalues⟩ := Loader.exists_ofTree_layers hsortedAll htypedAll
  refine ⟨c, ?_, fun setting => ?_⟩
  · rw [Loader.load_run_layers hextension hfiles henv fun tree htree =>
      (htypedAll tree (List.mem_append_right _ htree)).isTable]
    exact congrArg (fun loaded => (loaded.mapError LoadError.misfit, w)) hc
  · rw [← valueIn_append_toTree, ← hoverrides]
    exact hvalues setting

end Options

end Registrar
