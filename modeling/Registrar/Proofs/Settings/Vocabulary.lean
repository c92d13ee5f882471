import Registrar.Proofs.Settings.Layers
import Registrar.Settings.Basic

/-!
# The vocabulary of settings

Everything that can be set on its own (`Setting`), with the path of names that leads to it, the
words that set it (`Setting.said?`), and the value it has when nothing sets it (`Setting.builtIn`).
Of several sources, the last one to mention a setting decides on it (`Setting.valueIn`). A tree is
well typed when its groups of settings are tables and its settings have values of their types
(`Tree.WellTyped`).
-/

namespace Registrar.Settings

variable {root tree : Tree}

/-! ## Words -/

/-- The words for the levels of the log. -/
def levelWords : List (String × Level) :=
  [("trace", .trace), ("debug", .debug), ("info", .info), ("warn", .warn), ("error", .error)]

/-- The words for the formats of the log. -/
def formatWords : List (String × LogFormat) :=
  [("compact", .compact), ("full", .full), ("pretty", .pretty), ("json", .json)]

/-- The words for the destinations of the log. -/
def outputWords : List (String × LogOutput) :=
  [("stdout", .stdout), ("stderr", .stderr), ("file", .file)]

/-- What the word of a tree stands for. -/
def Tree.word? {α : Type} (words : List (String × α)) : Tree → Option α
  | .leaf _ (.text word) => words.lookup word
  | _ => none

/-- The truth value that a tree holds. -/
def Tree.truth? : Tree → Option Bool
  | .leaf _ (.bool b) => some b
  | _ => none

/-- The path that a tree spells, or leaves unset. -/
def Tree.location? : Tree → Option (Option Path)
  | .leaf _ .unit => some none
  | .leaf _ (.text text) => some (some ⟨text⟩)
  | .leaf _ (.char c) => some (some ⟨String.ofList [c]⟩)
  | _ => none

/-! ## Settings -/

/-- Everything that can be set on its own. -/
inductive Setting where
  | level
  | format
  | output
  | filePath
  | spanNew
  | spanEnter
  | spanExit
  | spanClose
  | threadIds
  | fileLocation
  /-- the level of one part of the program -/
  | filter (name : String)
  | feed
  | baseDir
  | dryRun
  | check
  deriving DecidableEq, Repr

namespace Setting

/-- The names that lead to the setting. -/
def path : Setting → List String
  | .level => ["logging", "level"]
  | .format => ["logging", "format"]
  | .output => ["logging", "output"]
  | .filePath => ["logging", "file_path"]
  | .spanNew => ["logging", "span_events", "new"]
  | .spanEnter => ["logging", "span_events", "enter"]
  | .spanExit => ["logging", "span_events", "exit"]
  | .spanClose => ["logging", "span_events", "close"]
  | .threadIds => ["logging", "thread_ids"]
  | .fileLocation => ["logging", "file_location"]
  | .filter name => ["logging", "filters", name]
  | .feed => ["input", "feed"]
  | .baseDir => ["output", "base_dir"]
  | .dryRun => ["output", "dry_run"]
  | .check => ["output", "check"]

/-- The type of the setting. -/
abbrev Value : Setting → Type
  | .level => Level
  | .format => LogFormat
  | .output => LogOutput
  | .filter _ => Option Level
  | .filePath | .feed | .baseDir => Option Path
  | .spanNew | .spanEnter | .spanExit | .spanClose | .threadIds | .fileLocation | .dryRun
  | .check => Bool

/-- What a tree says of the setting, when it has a value of its type. -/
def said? : (setting : Setting) → Tree → Option setting.Value
  | .level => Tree.word? levelWords
  | .format => Tree.word? formatWords
  | .output => Tree.word? outputWords
  | .filter _ => fun tree => (tree.word? levelWords).map some
  | .filePath | .feed | .baseDir => Tree.location?
  | .spanNew | .spanEnter | .spanExit | .spanClose | .threadIds | .fileLocation | .dryRun
  | .check => Tree.truth?

/-- The value of the setting when nothing is said of it. -/
def builtIn : (setting : Setting) → setting.Value
  | .level => Level.info
  | .format => LogFormat.compact
  | .output => LogOutput.stderr
  | .filter _ => (none : Option Level)
  | .filePath | .feed | .baseDir => (none : Option Path)
  | .spanNew | .spanEnter | .spanExit | .spanClose | .threadIds | .fileLocation | .dryRun
  | .check => false

/-- The value of the setting by what stands in its place. There is none when that is of another
type. -/
def resolve (setting : Setting) : Option Tree → Option setting.Value
  | some tree => setting.said? tree
  | none => some setting.builtIn

/-- The value that the last of several sources to mention the setting gives it. -/
def valueIn (setting : Setting) (sources : List Tree) : Option setting.Value :=
  setting.resolve (last? setting.path sources)

/-- The value of the setting in a run. -/
def get : (setting : Setting) → Settings → setting.Value
  | .level => fun s => s.log.level
  | .format => fun s => s.log.format
  | .output => fun s => s.log.output
  | .filePath => fun s => s.log.filePath
  | .spanNew => fun s => s.log.spanEvents.new
  | .spanEnter => fun s => s.log.spanEvents.enter
  | .spanExit => fun s => s.log.spanEvents.exit
  | .spanClose => fun s => s.log.spanEvents.close
  | .threadIds => fun s => s.log.threadIds
  | .fileLocation => fun s => s.log.fileLocation
  | .filter name => fun s => s.log.filters.lookup name
  | .feed => fun s => s.input.feed
  | .baseDir => fun s => s.output.baseDir
  | .dryRun => fun s => s.output.dryRun
  | .check => fun s => s.output.check

theorem path_ne_nil (setting : Setting) : setting.path ≠ [] := by
  cases setting <;> exact List.cons_ne_nil _ _

/-- A setting is a single value. A table never says anything of it, not even one that spells a
level, as tables are laid over each other entry by entry. -/
theorem isTable_of_said? {setting : Setting} {value : setting.Value}
    (h : setting.said? tree = some value) : tree.isTable = false := by
  cases tree with
  | leaf => rfl
  | array => rfl
  | table => cases setting <;> cases h

end Setting

/-! ## Well-typed trees -/

/-- The paths that lead to groups of settings, the whole of a tree being one. -/
def groups : List (List String) :=
  [[], ["logging"], ["logging", "span_events"], ["logging", "filters"], ["input"], ["output"]]

/-- A tree is a table, its groups of settings are tables as far as it has them, and its settings
have values of their types. -/
structure Tree.WellTyped (root : Tree) : Prop where
  groups : ∀ path ∈ groups, ∀ below, root.at? path = some below → below.isTable = true
  values : ∀ (setting : Setting) (below : Tree), root.at? setting.path = some below →
    ∃ value, setting.said? below = some value

/-- What stands in front of the name of a setting leads to a group. -/
theorem Setting.mem_groups (setting : Setting) {front back : List String}
    (hpath : front ++ back = setting.path) (hback : back ≠ []) : front ∈ Settings.groups := by
  -- no setting has more than three names, so at most two of them stand in front
  rcases front with _ | ⟨first, _ | ⟨second, _ | ⟨third, rest⟩⟩⟩ <;>
  cases setting <;> simp_all [Setting.path, Settings.groups]

theorem Tree.WellTyped.clear (h : root.WellTyped) (setting : Setting) : root.Clear setting.path :=
  Tree.clear_of_at?
    (fun front _ hpath hback => h.groups front (setting.mem_groups hpath hback))
    fun below hbelow => by
      obtain ⟨value, hvalue⟩ := h.values setting below hbelow
      exact Setting.isTable_of_said? hvalue

/-- The settings that a tree may mention: all but the levels of parts, and the levels of the parts
that it names. -/
def Setting.candidates (root : Tree) : List Setting :=
  [.level, .format, .output, .filePath, .spanNew, .spanEnter, .spanExit, .spanClose, .threadIds,
    .fileLocation, .feed, .baseDir, .dryRun, .check] ++
  match root.at? ["logging", "filters"] with
  | some (.table _ entries) => entries.map fun entry => .filter entry.1
  | _ => []

theorem Setting.mem_candidates {setting : Setting} {below : Tree}
    (h : root.at? setting.path = some below) : setting ∈ candidates root := by
  cases setting with
  | filter name =>
    refine List.mem_append_right _ ?_
    have hpath : (Setting.filter name).path = ["logging", "filters"] ++ [name] := rfl
    rw [hpath, Tree.at?_append] at h
    obtain ⟨tree, htree, hname⟩ := Option.bind_eq_some_iff.mp h
    rw [htree]
    cases tree with
    | leaf => cases hname
    | array => cases hname
    | table origin entries =>
      rw [Tree.at?_table_singleton] at hname
      exact List.mem_map.mpr ⟨_, mem_of_lookup hname, rfl⟩
  | _ => exact List.mem_append_left _ (by decide)

instance (root : Tree) : Decidable root.WellTyped :=
  decidable_of_iff
    ((∀ path ∈ Settings.groups, ∀ below ∈ root.at? path, below.isTable = true) ∧
      ∀ setting ∈ Setting.candidates root, ∀ below ∈ root.at? setting.path,
        (setting.said? below).isSome = true) <| by
    refine ⟨fun ⟨hgroups, hvalues⟩ => ⟨hgroups, fun setting below hbelow => ?_⟩,
      fun h => ⟨h.groups, fun setting _ below hbelow => ?_⟩⟩
    · exact Option.isSome_iff_exists.mp
        (hvalues setting (Setting.mem_candidates hbelow) below hbelow)
    · exact Option.isSome_iff_exists.mpr (h.values setting below hbelow)

end Registrar.Settings
