import Registrar.Proofs.Settings.Fields
import Registrar.Proofs.Settings.Vocabulary

/-!
# Single settings

How each setting is read from its place in a tree. Reading takes a tree at its word
(`Setting.read_of_said?`), and the settings that an ordered tree describes are each what stands at
the end of its path, or else the default (`Tree.Readable.given`). So a well-typed tree makes up
settings, and each of them has the value that the tree gives it (`Tree.exists_ofTree_of_said?`).
-/

namespace Registrar.Settings

/-! ## One setting -/

namespace Setting

/-- How the setting is read. -/
def read : (setting : Setting) → Tree → Extracted setting.Value
  | .level => levelChoice.read
  | .format => formatChoice.read
  | .output => outputChoice.read
  | .filter _ => fun tree => some <$> levelChoice.read tree
  | .filePath | .feed | .baseDir => readPath
  | .spanNew | .spanEnter | .spanExit | .spanClose | .threadIds | .fileLocation | .dryRun
  | .check => readBool

/-- The defaults of the records are the built-in values. -/
theorem get_default (setting : Setting) : setting.get {} = setting.builtIn := by
  cases setting <;> rfl

end Setting

theorem Choice.lookup_words {α : Type} (choice : Choice α) (text : String) :
    (choice.all.map fun a => (choice.name a, a)).lookup text =
      choice.all.find? fun a => choice.name a = text := by
  induction choice.all with
  | nil => rfl
  | cons a rest ih =>
    by_cases h : choice.name a = text
    · subst h
      simp
    · rw [List.map_cons, List.lookup_cons, beq_false_of_ne (Ne.symm h), ih,
        List.find?_cons_of_neg (by simpa using h)]

/-- An alternative is read from its word. -/
theorem Choice.read_of_word? {α : Type} {choice : Choice α} {words : List (String × α)}
    (hwords : words = choice.all.map fun a => (choice.name a, a)) {tree : Tree} {a : α}
    (h : tree.word? words = some a) : choice.read tree = .ok a := by
  obtain ⟨origin, word, rfl, hlookup⟩ : ∃ origin word, tree = .leaf origin (.text word) ∧
      words.lookup word = some a := by
    unfold Tree.word? at h
    split at h
    · exact ⟨_, _, rfl, h⟩
    · cases h
  rw [hwords, Choice.lookup_words] at hlookup
  rw [Choice.read, Choice.find, hlookup]

theorem readBool_of_truth? {tree : Tree} {b : Bool} (h : tree.truth? = some b) :
    readBool tree = .ok b := by
  unfold Tree.truth? at h
  split at h
  · obtain rfl := Option.some.inj h
    rfl
  · cases h

theorem readPath_of_location? {tree : Tree} {path : Option Path}
    (h : tree.location? = some path) : readPath tree = .ok path := by
  unfold Tree.location? at h
  split at h
  · obtain rfl := Option.some.inj h
    rfl
  · obtain rfl := Option.some.inj h
    rfl
  · obtain rfl := Option.some.inj h
    rfl
  · cases h

/-- Reading takes a tree at its word. -/
theorem Setting.read_of_said? {setting : Setting} {tree : Tree} {value : setting.Value}
    (h : setting.said? tree = some value) : setting.read tree = .ok value := by
  cases setting with
  | level => exact Choice.read_of_word? rfl h
  | format => exact Choice.read_of_word? rfl h
  | output => exact Choice.read_of_word? rfl h
  | filter name =>
    obtain ⟨level, hlevel, rfl⟩ := Option.map_eq_some_iff.mp h
    exact map_eq_ok_iff.mpr ⟨level, Choice.read_of_word? rfl hlevel, rfl⟩
  | filePath | feed | baseDir => exact readPath_of_location? h
  | _ => exact readBool_of_truth? h

/-! ## The fields of the records -/

theorem spanLayout_holds :
    spanLayout.Holds "new" readBool SpanEvents.new ∧
      spanLayout.Holds "enter" readBool SpanEvents.enter ∧
      spanLayout.Holds "exit" readBool SpanEvents.exit ∧
      spanLayout.Holds "close" readBool SpanEvents.close := by
  refine ⟨?_, ?_, ?_, ?_⟩ <;>
  exact ⟨⟨_, rfl, fun _ _ => rfl⟩, by simp [spanLayout, Field.keeps_of]⟩

theorem logLayout_holds :
    logLayout.Holds "level" levelChoice.read LogSettings.level ∧
      logLayout.Holds "format" formatChoice.read LogSettings.format ∧
      logLayout.Holds "output" outputChoice.read LogSettings.output ∧
      logLayout.Holds "file_path" readPath LogSettings.filePath ∧
      logLayout.Holds "span_events" (spanLayout.read {}) LogSettings.spanEvents ∧
      logLayout.Holds "thread_ids" readBool LogSettings.threadIds ∧
      logLayout.Holds "file_location" readBool LogSettings.fileLocation ∧
      logLayout.Holds "filters" readFilters LogSettings.filters := by
  refine ⟨?_, ?_, ?_, ?_, ?_, ?_, ?_, ?_⟩ <;>
  exact ⟨⟨_, rfl, fun _ _ => rfl⟩, by simp [logLayout, Field.keeps_of]⟩

theorem inputLayout_holds : inputLayout.Holds "feed" readPath InputSettings.feed :=
  ⟨⟨_, rfl, fun _ _ => rfl⟩, by simp [inputLayout]⟩

theorem outputLayout_holds :
    outputLayout.Holds "base_dir" readPath OutputSettings.baseDir ∧
      outputLayout.Holds "dry_run" readBool OutputSettings.dryRun ∧
      outputLayout.Holds "check" readBool OutputSettings.check := by
  refine ⟨?_, ?_, ?_⟩ <;>
  exact ⟨⟨_, rfl, fun _ _ => rfl⟩, by simp [outputLayout, Field.keeps_of]⟩

theorem layout_holds :
    layout.Holds "logging" (logLayout.read {}) Settings.log ∧
      layout.Holds "input" (inputLayout.read {}) Settings.input ∧
      layout.Holds "output" (outputLayout.read {}) Settings.output := by
  refine ⟨?_, ?_, ?_⟩ <;>
  exact ⟨⟨_, rfl, fun _ _ => rfl⟩, by simp [layout, Field.keeps_of]⟩

/-! ## Levels of parts -/

variable {root : Tree} {front : List String}

theorem readFilters_cons (origin : Origin) (name : String) (tree : Tree)
    (entries : List (String × Tree)) :
    readFilters (.table origin ((name, tree) :: entries)) = (do
      let level ← within name (levelChoice.read tree)
      let rest ← readFilters (.table origin entries)
      return (name, level) :: rest) := by
  simp only [readFilters, List.mapM_cons, bind_assoc, pure_bind]

theorem given_of_readFilters {origin : Origin} {entries : List (String × Tree)}
    {filters : List (String × Level)} (h : readFilters (.table origin entries) = .ok filters)
    (name : String) :
    Given (fun tree => some <$> levelChoice.read tree) none (filters.lookup name)
      (entries.lookup name) := by
  induction entries generalizing filters with
  | nil =>
    obtain rfl := Except.ok.inj h
    exact rfl
  | cons entry entries ih =>
    obtain ⟨first, tree⟩ := entry
    rw [readFilters_cons] at h
    obtain ⟨level, hlevel, h⟩ := bind_eq_ok_iff.mp h
    obtain ⟨rest, hrest, h⟩ := bind_eq_ok_iff.mp h
    obtain rfl := Except.ok.inj h
    rw [lookup_cons, List.lookup_cons]
    by_cases hname : name = first
    · rw [if_pos hname, beq_iff_eq.mpr hname]
      exact map_eq_ok_iff.mpr ⟨level, within_eq_ok_iff.mp hlevel, rfl⟩
    · rw [if_neg hname, beq_false_of_ne hname]
      exact ih hrest

theorem exists_readFilters {origin : Origin} {entries : List (String × Tree)}
    (h : ∀ entry ∈ entries, ∃ level, levelChoice.read entry.2 = .ok level) :
    ∃ filters, readFilters (.table origin entries) = .ok filters := by
  induction entries with
  | nil => exact ⟨[], rfl⟩
  | cons entry entries ih =>
    obtain ⟨level, hlevel⟩ := h entry List.mem_cons_self
    obtain ⟨rest, hrest⟩ := ih fun entry hentry => h entry (.tail _ hentry)
    refine ⟨(entry.1, level) :: rest, ?_⟩
    rw [readFilters_cons]
    exact bind_eq_ok_iff.mpr ⟨level, within_eq_ok_iff.mpr hlevel,
      bind_eq_ok_iff.mpr ⟨rest, hrest, rfl⟩⟩

/-- What the levels hold for a part of the program is what the tree says at the end of its path. -/
theorem given_filter_at? {filters : List (String × Level)} {name : String}
    (hclear : root.Clear (front ++ [name]))
    (hgiven : Given readFilters [] filters (root.at? front)) :
    Given (fun tree => some <$> levelChoice.read tree) none (filters.lookup name)
      (root.at? (front ++ [name])) := by
  rw [Tree.at?_append]
  cases htree : root.at? front with
  | none =>
    rw [htree] at hgiven
    obtain rfl : filters = [] := hgiven
    exact rfl
  | some tree =>
    rw [htree] at hgiven
    obtain ⟨origin, entries, rfl⟩ :=
      Tree.eq_table_of_isTable (hclear.isTable_of_at? (List.cons_ne_nil _ _) htree)
    rw [Option.bind_some, Tree.at?_table_singleton]
    exact given_of_readFilters hgiven name

theorem exists_readFilters_at? (hsorted : root.Sorted)
    (htable : ∀ below, root.at? front = some below → below.isTable = true)
    (hlevels : ∀ name below, root.at? (front ++ [name]) = some below →
      ∃ level, levelChoice.read below = .ok level) {below : Tree}
    (hbelow : root.at? front = some below) : ∃ filters, readFilters below = .ok filters := by
  obtain ⟨origin, entries, rfl⟩ := Tree.eq_table_of_isTable (htable below hbelow)
  have hnodup := (Tree.sorted_table.mp (hsorted.at? hbelow)).1.nodup
  refine exists_readFilters fun entry hentry => hlevels entry.1 entry.2 ?_
  rw [Tree.at?_append, hbelow, Option.bind_some, Tree.at?_table_singleton]
  exact lookup_of_mem hnodup hentry

/-! ## All settings -/

/-- Where the settings of a tree can be read: every setting has a single value of its type, and
there are tables on the way to it. -/
structure Tree.Readable (root : Tree) : Prop where
  clear : ∀ setting : Setting, root.Clear setting.path
  values : ∀ (setting : Setting) (below : Tree), root.at? setting.path = some below →
    ∃ value, setting.read below = .ok value

/-- The settings of a tree are each what stands at the end of its path, or else the default. -/
theorem Tree.Readable.given {c : Settings} (h : root.Readable) (hsorted : root.Sorted)
    (hread : ofTree root = .ok c) (setting : Setting) :
    Given setting.read (setting.get {}) (setting.get c) (root.at? setting.path) := by
  have hclear := h.clear setting
  obtain ⟨hlog, hinput, houtput⟩ := layout_holds
  obtain ⟨hlevel, hformat, hdestination, hpath, hspans, hthreads, hlocation, hfilters⟩ :=
    logLayout_holds
  obtain ⟨hnew, henter, hexit, hclose⟩ := spanLayout_holds
  obtain ⟨hbase, hdry, hcheck⟩ := outputLayout_holds
  have hroot : Given (layout.read {}) {} c (root.at? []) := hread
  cases setting with
  | level => exact hlevel.given_at? hsorted hclear (hlog.given_at? hsorted hclear hroot)
  | format => exact hformat.given_at? hsorted hclear (hlog.given_at? hsorted hclear hroot)
  | output => exact hdestination.given_at? hsorted hclear (hlog.given_at? hsorted hclear hroot)
  | filePath => exact hpath.given_at? hsorted hclear (hlog.given_at? hsorted hclear hroot)
  | spanNew =>
    exact hnew.given_at? hsorted hclear
      (hspans.given_at? hsorted hclear (hlog.given_at? hsorted hclear hroot))
  | spanEnter =>
    exact henter.given_at? hsorted hclear
      (hspans.given_at? hsorted hclear (hlog.given_at? hsorted hclear hroot))
  | spanExit =>
    exact hexit.given_at? hsorted hclear
      (hspans.given_at? hsorted hclear (hlog.given_at? hsorted hclear hroot))
  | spanClose =>
    exact hclose.given_at? hsorted hclear
      (hspans.given_at? hsorted hclear (hlog.given_at? hsorted hclear hroot))
  | threadIds => exact hthreads.given_at? hsorted hclear (hlog.given_at? hsorted hclear hroot)
  | fileLocation => exact hlocation.given_at? hsorted hclear (hlog.given_at? hsorted hclear hroot)
  | filter name =>
    exact given_filter_at? hclear
      (hfilters.given_at? hsorted hclear (hlog.given_at? hsorted hclear hroot))
  | feed => exact inputLayout_holds.given_at? hsorted hclear (hinput.given_at? hsorted hclear hroot)
  | baseDir => exact hbase.given_at? hsorted hclear (houtput.given_at? hsorted hclear hroot)
  | dryRun => exact hdry.given_at? hsorted hclear (houtput.given_at? hsorted hclear hroot)
  | check => exact hcheck.given_at? hsorted hclear (houtput.given_at? hsorted hclear hroot)

/-- Settings can be had from a tree whose settings can be read. -/
theorem Tree.Readable.exists_ofTree (h : root.Readable) (hsorted : root.Sorted) :
    ∃ c, ofTree root = .ok c := by
  have htable : ∀ (setting : Setting) {front back : List String},
      setting.path = front ++ back → back ≠ [] →
        ∀ below, root.at? front = some below → below.isTable = true := by
    intro setting front back hpath hback below hbelow
    have hclear := h.clear setting
    rw [hpath] at hclear
    exact hclear.isTable_of_at? hback hbelow
  have hfield {σ : Type} (setting : Setting) {name : String} {set : setting.Value → σ → σ}
      {below : Tree} (hbelow : root.at? setting.path = some below) :
      ∃ change, (Field.of name setting.read set).read below = .ok change :=
    Field.exists_read_of (h.values setting below hbelow)
  have hspans : ∀ below, root.at? ["logging", "span_events"] = some below →
      ∃ events, spanLayout.read {} below = .ok events := by
    intro below
    refine Layout.exists_read_at? hsorted (htable .spanNew rfl (List.cons_ne_nil _ _)) ?_
    simp only [spanLayout, List.forall_mem_cons]
    exact ⟨fun _ => hfield .spanNew, fun _ => hfield .spanEnter, fun _ => hfield .spanExit,
      fun _ => hfield .spanClose, nofun⟩
  have hfilters : ∀ below, root.at? ["logging", "filters"] = some below →
      ∃ filters, readFilters below = .ok filters := by
    intro below
    refine exists_readFilters_at? hsorted (htable (.filter "") rfl (List.cons_ne_nil _ _)) ?_
    intro name below hbelow
    obtain ⟨value, hvalue⟩ := h.values (.filter name) below hbelow
    obtain ⟨level, hlevel, -⟩ := map_eq_ok_iff.mp hvalue
    exact ⟨level, hlevel⟩
  have hlog : ∀ below, root.at? ["logging"] = some below →
      ∃ log, logLayout.read {} below = .ok log := by
    intro below
    refine Layout.exists_read_at? hsorted (htable .level rfl (List.cons_ne_nil _ _)) ?_
    simp only [logLayout, List.forall_mem_cons]
    exact ⟨fun _ => hfield .level, fun _ => hfield .format, fun _ => hfield .output,
      fun _ => hfield .filePath, fun below hbelow => Field.exists_read_of (hspans below hbelow),
      fun _ => hfield .threadIds, fun _ => hfield .fileLocation,
      fun below hbelow => Field.exists_read_of (hfilters below hbelow), nofun⟩
  have hinput : ∀ below, root.at? ["input"] = some below →
      ∃ input, inputLayout.read {} below = .ok input := by
    intro below
    refine Layout.exists_read_at? hsorted (htable .feed rfl (List.cons_ne_nil _ _)) ?_
    simp only [inputLayout, List.forall_mem_cons]
    exact ⟨fun _ => hfield .feed, nofun⟩
  have houtput : ∀ below, root.at? ["output"] = some below →
      ∃ output, outputLayout.read {} below = .ok output := by
    intro below
    refine Layout.exists_read_at? hsorted (htable .check rfl (List.cons_ne_nil _ _)) ?_
    simp only [outputLayout, List.forall_mem_cons]
    exact ⟨fun _ => hfield .baseDir, fun _ => hfield .dryRun, fun _ => hfield .check, nofun⟩
  have hroot : root.at? [] = some root := rfl
  refine Layout.exists_read_at? hsorted (htable .level rfl (List.cons_ne_nil _ _)) ?_ hroot
  simp only [layout, List.forall_mem_cons]
  exact ⟨fun below hbelow => Field.exists_read_of (hlog below hbelow),
    fun below hbelow => Field.exists_read_of (hinput below hbelow),
    fun below hbelow => Field.exists_read_of (houtput below hbelow), nofun⟩

/-- A tree with a value, or none, for every setting makes up settings that have these values. -/
theorem Tree.exists_ofTree_of_said? (hsorted : root.Sorted)
    (hclear : ∀ setting : Setting, root.Clear setting.path)
    (hsaid : ∀ (setting : Setting) (below : Tree), root.at? setting.path = some below →
      ∃ value, setting.said? below = some value) :
    ∃ c, ofTree root = .ok c ∧
      ∀ setting : Setting, setting.resolve (root.at? setting.path) = some (setting.get c) := by
  have hreadable : root.Readable := by
    refine ⟨hclear, fun setting below hbelow => ?_⟩
    obtain ⟨value, hvalue⟩ := hsaid setting below hbelow
    exact ⟨value, Setting.read_of_said? hvalue⟩
  obtain ⟨c, hc⟩ := hreadable.exists_ofTree hsorted
  refine ⟨c, hc, fun setting => ?_⟩
  have hgiven := hreadable.given hsorted hc setting
  cases hbelow : root.at? setting.path with
  | none =>
    rw [hbelow] at hgiven
    have hvalue : setting.get c = setting.get {} := hgiven
    rw [hvalue, setting.get_default]
    rfl
  | some below =>
    rw [hbelow] at hgiven
    obtain ⟨value, hvalue⟩ := hsaid setting below hbelow
    have hsame : setting.get c = value :=
      Except.ok.inj (hgiven.symm.trans (Setting.read_of_said? hvalue))
    rw [hsame]
    exact hvalue

end Registrar.Settings
