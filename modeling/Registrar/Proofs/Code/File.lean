import Registrar.Proofs.Build.Generation
import Registrar.Proofs.Build.Rendering
import Registrar.Proofs.Code.Statement
import Registrar.Text.Encoding

/-!
# What a generated file shows

The lines of a generated file are fixed but for three things: the package, the statement that makes
the builder, and one statement for each member. No text that stands in them ends a line, so the file
is cut at its line ends into just these lines (`FileContent.LaidOut`), and line for line it shows
what it was written from. Main statement: `Draft.render_shows_content`.
-/

namespace Registrar

open GoCode (isWord line)

namespace GoCode

/-- The lines in front of the members; the last one makes the builder. -/
def headLines (package : String) (h : Header) : List String :=
  ["package " ++ package, "", "import (", "\t\"" ++ metadataImport ++ "\"",
    "\t\"" ++ registryImport ++ "\"", ")", "", "func init() \x7b", builderStatement h]

/-- The lines behind the members; the first one registers the plugin. -/
def tailLines : List String :=
  ["\tregistry.RegisterPlugin(builder.Build())", "\x7d", ""]

/-- The lines of a file. -/
def fileLines (package : String) (h : Header) (statements : List String) : List String :=
  headLines package h ++ (statements ++ tailLines)

end GoCode

namespace FileContent

/-- The members in the order of the file. -/
def members (c : FileContent) : List Member :=
  c.states.map .state ++ c.actions.map .action ++ c.configs.map .config

/-- The text is cut at its line ends into the lines of the file, with one statement for each member
and nothing behind the last line end. -/
def LaidOut (c : FileContent) (text : String) : Prop :=
  ∃ statements : List String,
    List.Forall₂ Member.IsAddedBy c.members statements ∧
      Text.split '\n' text.toList =
        (GoCode.fileLines c.package c.header statements).map String.toList ++ [[]]

end FileContent

/-! ## Lines -/

namespace GoCode

theorem preamble_append_opening (package : String) (h : Header) :
    preamble package ++ opening h = String.join ((headLines package h).map line) := by
  rw [opening_eq]
  simp only [preamble, headLines, List.map_cons, List.map_nil, String.join_cons, String.join_nil,
    String.append_assoc, String.append_empty]

theorem closing_eq : closing = String.join (tailLines.map line) := by
  simp only [closing, tailLines, List.map_cons, List.map_nil, String.join_cons, String.join_nil,
    String.append_assoc, String.append_empty]

/-- Lines without a line end in them are the lines that their text is cut into. -/
theorem split_join_line {lines : List String} (h : ∀ l ∈ lines, '\n' ∉ l.toList) :
    Text.split '\n' (String.join (lines.map line)).toList = lines.map String.toList ++ [[]] := by
  have htext : (String.join (lines.map line)).toList =
      (lines.map String.toList).flatMap (· ++ ['\n']) := by
    simp [String.toList_join, List.flatMap_def, line, Function.comp_def]
  rw [htext]
  refine Text.split_flatMap fun piece hpiece => ?_
  obtain ⟨l, hl, rfl⟩ := List.mem_map.mp hpiece
  exact h l hl

theorem newline_not_mem_fileLines {package : String} {h : Header} {statements : List String}
    (hpackage : isWord package = true) (htype : isWord h.pluginType = true)
    (hstatements : ∀ l ∈ statements, '\n' ∉ l.toList) :
    ∀ l ∈ fileLines package h statements, '\n' ∉ l.toList := by
  have hword : '\n' ∉ package.toList := not_mem_of_isWord hpackage (by decide) (by decide)
  have hbuilder : '\n' ∉ (builderStatement h).toList := newline_not_mem_builderStatement htype
  have hhead : ∀ l ∈ headLines package h, '\n' ∉ l.toList := by
    simp [headLines, hword, hbuilder, metadataImport, registryImport]
  have htail : ∀ l ∈ tailLines, '\n' ∉ l.toList := by
    simp [tailLines]
  rw [fileLines, List.forall_mem_append, List.forall_mem_append]
  exact ⟨hhead, hstatements, htail⟩

theorem length_fileLines (package : String) (h : Header) (statements : List String) :
    (fileLines package h statements).length = 12 + statements.length := by
  simp only [fileLines, headLines, tailLines, List.length_append, List.length_cons, List.length_nil]
  omega

/-- The lines of a file show what varies in them. -/
theorem fileLines_inj {package package' : String} {h h' : Header}
    {statements statements' : List String}
    (heq : fileLines package h statements = fileLines package' h' statements') :
    package = package' ∧ builderStatement h = builderStatement h' ∧ statements = statements' := by
  obtain ⟨hhead, hrest⟩ := List.append_inj heq rfl
  have hpackage : package = package' := by
    have hclause := String.toList_inj.mpr (List.cons.inj hhead).1
    rw [String.toList_append, String.toList_append] at hclause
    exact String.toList_inj.mp (List.append_cancel_left hclause)
  have hbuilder : builderStatement h = builderStatement h' := by
    simpa [headLines, hpackage] using hhead
  exact ⟨hpackage, hbuilder, List.append_cancel_right hrest⟩

end GoCode

/-! ## Members -/

/-- Lines of declarations are the statements of their members. -/
theorem exists_statements {α : Type} {member : α → Member} {line? : α → Option String}
    (hline : ∀ x, line? x = (member x).statement?.map line) {xs : List α} {lines : List String}
    (h : xs.mapM line? = some lines) :
    ∃ statements, List.Forall₂ Member.IsAddedBy (xs.map member) statements ∧
      lines = statements.map line := by
  induction xs generalizing lines with
  | nil =>
    cases h
    exact ⟨[], .nil, rfl⟩
  | cons x xs ih =>
    rw [List.mapM_cons, hline] at h
    cases hx : (member x).statement? with
    | none =>
      rw [hx] at h
      cases h
    | some statement =>
      cases hxs : xs.mapM line? with
      | none =>
        rw [hx, hxs] at h
        cases h
      | some more =>
        rw [hx, hxs] at h
        cases h
        obtain ⟨statements, hstatements, rfl⟩ := ih hxs
        exact ⟨statement :: statements, .cons hx hstatements, rfl⟩

theorem stateLine?_eq (s : StateDecl) :
    Template.stateLine? s = (Member.state s).statement?.map line := by
  rw [Template.stateLine?, ← Template.valueType?_eq, Member.statement?, Option.map_map,
    ← funext (Template.member_eq "AddState" s.field s.name s.description)]
  rfl

theorem actionLine?_eq (a : ActionDecl) :
    Template.actionLine? a = (Member.action a).statement?.map line := by
  rw [Template.actionLine?, ← Template.valueType?_eq, Member.statement?, Option.map_map,
    ← funext (Template.member_eq "AddAction" a.method a.name a.description)]
  rfl

theorem mapM_configLine (cs : List ConfigDecl) :
    (cs.mapM fun c => (Member.config c).statement?.map line) =
      some (cs.map Template.configLine) := by
  rw [← funext ConfigDecl.render_eq]
  exact List.mapM_pure

/-- A text that a draft is rendered to is spelled from its content. -/
theorem Draft.exists_content {d : Draft} {text : String} (h : d.render = .ok text) :
    ∃ c, d.content? = some c ∧ c.text? = some text := by
  have htext : d.render.toOption = some text := by rw [h]; rfl
  rw [Draft.toOption_render] at htext
  exact Option.bind_eq_some_iff.mp htext

/-- A text that a draft is rendered to is made of the lines of a file. -/
theorem Draft.exists_fileLines {d : Draft} {text : String} (h : d.render = .ok text) :
    ∃ c statements, d.content? = some c ∧
      List.Forall₂ Member.IsAddedBy c.members statements ∧
      text = String.join ((GoCode.fileLines c.package c.header statements).map line) := by
  obtain ⟨c, hc, htext⟩ := Draft.exists_content h
  obtain ⟨states, hstates, htext⟩ := Option.bind_eq_some_iff.mp htext
  obtain ⟨actions, hactions, htext⟩ := Option.bind_eq_some_iff.mp htext
  -- the kinds are rendered apart, and their statements stand behind one another like the members
  obtain ⟨stateStatements, hstate, rfl⟩ := exists_statements stateLine?_eq hstates
  obtain ⟨actionStatements, haction, rfl⟩ := exists_statements actionLine?_eq hactions
  obtain ⟨configStatements, hconfig, hconfigs⟩ :=
    exists_statements (fun _ => rfl) (mapM_configLine c.configs)
  refine ⟨c, stateStatements ++ actionStatements ++ configStatements, hc, ?_, ?_⟩
  · exact List.rel_append (List.rel_append hstate haction) hconfig
  · simp only [GoCode.fileLines, List.map_append, String.join_append, ← hconfigs,
      ← GoCode.preamble_append_opening, ← GoCode.closing_eq, Template.preamble_eq,
      Template.opening_eq, Template.closing_eq]
    simpa only [String.append_assoc] using (Option.some.inj htext).symm

theorem newline_not_mem_statements {ms : List Member} {statements : List String}
    (h : List.Forall₂ Member.IsAddedBy ms statements) : ∀ l ∈ statements, '\n' ∉ l.toList := by
  induction h with
  | nil => simp
  | cons hfirst _ ih => exact List.forall_mem_cons.mpr ⟨hfirst.newline_not_mem, ih⟩

theorem FileContent.members_inj {c c' : FileContent} (h : c.members = c'.members) :
    c.states = c'.states ∧ c.actions = c'.actions ∧ c.configs = c'.configs := by
  have hstates : c.states = c'.states := by
    simpa [members] using congrArg (List.filterMap fun | .state s => some s | _ => none) h
  have hactions : c.actions = c'.actions := by
    simpa [members] using congrArg (List.filterMap fun | .action a => some a | _ => none) h
  have hconfigs : c.configs = c'.configs := by
    simpa [members] using congrArg (List.filterMap fun | .config c => some c | _ => none) h
  exact ⟨hstates, hactions, hconfigs⟩

/-- The lines of a file show what it is written from. -/
theorem FileContent.eq_of_fileLines {c c' : FileContent} {statements statements' : List String}
    (hword : isWord c.header.pluginType = true) (hword' : isWord c'.header.pluginType = true)
    (hstatements : List.Forall₂ Member.IsAddedBy c.members statements)
    (hstatements' : List.Forall₂ Member.IsAddedBy c'.members statements')
    (h : GoCode.fileLines c.package c.header statements =
      GoCode.fileLines c'.package c'.header statements') : c = c' := by
  obtain ⟨hpackage, hbuilder, rfl⟩ := GoCode.fileLines_inj h
  have hheader : c.header = c'.header := GoCode.builderStatement_inj hword hword' hbuilder
  have hunique : Relator.LeftUnique Member.IsAddedBy := fun _ _ _ => Member.eq_of_isAddedBy
  have hmembers : c.members = c'.members :=
    List.left_unique_forall₂' hunique hstatements hstatements'
  obtain ⟨hstates, hactions, hconfigs⟩ := FileContent.members_inj hmembers
  exact FileContent.ext hpackage hheader hstates hactions hconfigs

/-! ## Files -/

/-- The package and the type of the plugin are words. -/
structure Draft.NamedByWords (d : Draft) : Prop where
  package : isWord d.package = true
  pluginType : ∀ p, d.plugin = some p → isWord p.pluginType = true

/-- The text of a draft that words name is cut into the lines of its file. -/
theorem Draft.exists_layout {d : Draft} {text : String} (h : d.render = .ok text)
    (hwords : d.NamedByWords) :
    ∃ c statements, d.content? = some c ∧ isWord c.header.pluginType = true ∧
      List.Forall₂ Member.IsAddedBy c.members statements ∧
      Text.split '\n' text.toList =
        (GoCode.fileLines c.package c.header statements).map String.toList ++ [[]] := by
  obtain ⟨c, statements, hcontent, hstatements, rfl⟩ := Draft.exists_fileLines h
  obtain ⟨plugin, hplugin, rfl⟩ := Option.map_eq_some_iff.mp hcontent
  have hword : isWord plugin.pluginType = true := hwords.pluginType plugin hplugin
  refine ⟨_, statements, hcontent, hword, hstatements, ?_⟩
  exact GoCode.split_join_line (GoCode.newline_not_mem_fileLines hwords.package hword
    (newline_not_mem_statements hstatements))

/-- The text of a file is spelled from its content, has one line for each member and twelve more,
and shows all that it is written from: drafts with the same text differ in nothing but the place of
the file and in where the version comes from. -/
theorem Draft.render_shows_content {d e : Draft} {text other : String} (hd : d.render = .ok text)
    (he : e.render = .ok other) (hdwords : d.NamedByWords) (hewords : e.NamedByWords) :
    ∃ c, d.content? = some c ∧ c.text? = some text ∧ c.LaidOut text ∧
      text.toList.count '\n' = 12 + (d.states.length + d.actions.length + d.configs.length) ∧
      (Text.encode text = Text.encode other → e.content? = some c) := by
  obtain ⟨c, statements, hc, hword, hstatements, hlines⟩ := Draft.exists_layout hd hdwords
  refine ⟨c, hc, ?_, ⟨statements, hstatements, hlines⟩, ?_, fun hbytes => ?_⟩
  · obtain ⟨c', hc', htext⟩ := Draft.exists_content hd
    obtain rfl := Option.some.inj (hc.symm.trans hc')
    exact htext
  · obtain ⟨plugin, -, rfl⟩ := Option.map_eq_some_iff.mp hc
    -- the cut leaves one piece more than there are line ends, the empty one at the end
    have hmembers := hstatements.length_eq
    simp only [FileContent.members, List.length_append, List.length_map] at hmembers
    have hlength := congrArg List.length hlines
    rw [Text.length_split, List.length_append, List.length_map, GoCode.length_fileLines,
      ← hmembers] at hlength
    exact Nat.succ.inj hlength
  · obtain ⟨c', statements', hc', hword', hstatements', hlines'⟩ := Draft.exists_layout he hewords
    -- one text is cut in one way only, so the lines are the same
    rw [Text.encode_inj hbytes, hlines'] at hlines
    have hsame : GoCode.fileLines c'.package c'.header statements' =
        GoCode.fileLines c.package c.header statements :=
      List.map_injective_iff.mpr (fun _ _ => String.toList_inj.mp)
        (List.append_cancel_right hlines)
    rw [hc', FileContent.eq_of_fileLines hword' hword hstatements' hstatements hsame]

/-- A draft whose texts hold quotes, line ends and code; the module has the version. -/
def sampleDraft : Draft where
  outputPath := ⟨"a/zzz_plugins_annotations_generated.go"⟩
  package := "logic"
  moduleName := "demo\", \"x"
  binding := some ⟨some "1.0\\"⟩
  plugin := some ⟨"Switch", "switch\n\tbuilder.AddState(", "a \"switch\"", .logic, ""⟩
  states := [⟨"Value", "value\\", "on\r\n", .enum ["off", "\", \"on", ")\n\x7d"]⟩]
  actions := [⟨"SetValue", "set", "", .range (-5) 9⟩]
  configs := [⟨"Delay", "delay", "//", .integer⟩]

/-- The same file elsewhere, of a plugin that has a version of its own. -/
def versionedDraft : Draft :=
  { sampleDraft with
    outputPath := ⟨"b/zzz_plugins_annotations_generated.go"⟩
    binding := none
    plugin := sampleDraft.plugin.map fun p => { p with version := "1.0\\" } }

theorem sampleDraft_shows_content : ∃ text c, sampleDraft.render = .ok text ∧
    versionedDraft.render = .ok text ∧ sampleDraft.content? = some c ∧ c.text? = some text ∧
      c.LaidOut text ∧ text.toList.count '\n' = 15 ∧ versionedDraft.content? = some c := by
  have hok : sampleDraft.render.isOk = true := by decide +kernel
  have hsame : versionedDraft.render = sampleDraft.render := rfl
  have hwords : sampleDraft.NamedByWords :=
    ⟨by decide, fun p hp => by cases hp; decide⟩
  have hversioned : versionedDraft.NamedByWords :=
    ⟨by decide, fun p hp => by cases hp; decide⟩
  cases hrender : sampleDraft.render with
  | error why =>
    rw [hrender] at hok
    cases hok
  | ok text =>
    have hother : versionedDraft.render = .ok text := hsame.trans hrender
    obtain ⟨c, hc, htext, hlaidOut, hcount, hshown⟩ :=
      Draft.render_shows_content hrender hother hwords hversioned
    exact ⟨text, c, rfl, hother, hc, htext, hlaidOut, hcount, hshown rfl⟩

end Registrar
