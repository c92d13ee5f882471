import Registrar.Draft
import Registrar.Proofs.Result

/-!
# The text of a generated file, spelled out

What stands in a generated file, character by character, for the data that it is written from. The
spellings are made of nothing but string literals and that data, so they can be read as the format
of the file; each of them is proved to be what the writer of the code writes. Main statement:
`Draft.toOption_render`, the text of a draft is spelled from its content.
-/

namespace Registrar

/-! ## The format -/

namespace Template

/-- The characters that are written as a backslash and a letter. -/
def letters : List (Char × Char) :=
  [('"', '"'), ('\\', '\\'), ('\x08', 'b'), ('\x0c', 'f'), ('\n', 'n'), ('\r', 'r'), ('\t', 't')]

/-- A character between the quotes of a literal: a letter behind a backslash, four hexadecimal
digits for every other control, and itself. -/
def quoted (c : Char) : List Char :=
  match letters.lookup c with
  | some letter => ['\\', letter]
  | none =>
    if c < ' ' then
      ['\\', 'u', '0', '0', Nat.digitChar (c.toNat / 16), Nat.digitChar (c.toNat % 16)]
    else [c]

/-- A text as a literal. -/
def literal (text : String) : String :=
  "\"" ++ String.ofList (text.toList.flatMap quoted) ++ "\""

/-- The constant for a usage. -/
def usage : Usage → String
  | .sensor => "metadata.Sensor"
  | .actuator => "metadata.Actuator"
  | .logic => "metadata.Logic"
  | .ui => "metadata.Ui"

/-- The constant for a kind of configuration field. -/
def settingType : SettingType → String
  | .string => "metadata.String"
  | .bool => "metadata.Bool"
  | .integer => "metadata.Integer"
  | .float => "metadata.Float"

/-- The expression that makes a value type; an enumeration without values has none. -/
def valueType? : ValueType → Option String
  | .range min max =>
    some ("metadata.MakeTypeRange(" ++ toString min.toInt ++ ", " ++ toString max.toInt ++ ")")
  | .text => some "metadata.MakeTypeText()"
  | .float => some "metadata.MakeTypeFloat()"
  | .bool => some "metadata.MakeTypeBool()"
  | .enum values =>
    if values = [] then none
    else some ("metadata.MakeTypeEnum(" ++ ", ".intercalate (values.map literal) ++ ")")
  | .complex => some "metadata.MakeTypeComplex()"

/-- The package clause and the imports. -/
def preamble (package : String) : String :=
  "package " ++ package ++ "\n\nimport (\n" ++
    "\t\"mylife-home-common/components/metadata\"\n" ++
    "\t\"mylife-home-core-library/registry\"\n)\n\n"

/-- The lines that open the function and make the builder of the plugin. -/
def opening (h : GoCode.Header) : String :=
  "func init() \x7b\n" ++
    ("\tbuilder := registry.MakePluginTypeBuilder[" ++ h.pluginType ++ "](" ++
      literal h.moduleName ++ ", " ++ literal h.name ++ ", " ++ literal h.description ++ ", " ++
      usage h.usage ++ ", " ++ literal h.version ++ ")\n")

/-- The line that adds a member: the function of the builder, the Go name that the member belongs
to, its own name and description, and the expression for its type. -/
def member (adder target name description type : String) : String :=
  "\tbuilder." ++ adder ++ "(" ++ literal target ++ ", " ++ literal name ++ ", " ++
    literal description ++ ", " ++ type ++ ")\n"

/-- The line for a state. -/
def stateLine? (s : StateDecl) : Option String :=
  (valueType? s.valueType).map (member "AddState" s.field s.name s.description)

/-- The line for an action. -/
def actionLine? (a : ActionDecl) : Option String :=
  (valueType? a.valueType).map (member "AddAction" a.method a.name a.description)

/-- The line for a configuration field. -/
def configLine (c : ConfigDecl) : String :=
  member "AddConfig" c.field c.name c.description (settingType c.valueType)

/-- The lines that register the plugin and close the function. -/
def closing : String :=
  "\tregistry.RegisterPlugin(builder.Build())\n\x7d\n\n"

end Template

/-- What the text of a file is written from. -/
structure FileContent where
  package : String
  header : GoCode.Header
  states : List StateDecl
  actions : List ActionDecl
  configs : List ConfigDecl
  deriving DecidableEq, Repr

attribute [ext] FileContent

/-- The text of a file: one line for each state, then one for each action, then one for each
configuration field, between the lines that open the function and those that close it. -/
def FileContent.text? (c : FileContent) : Option String := do
  let states ← c.states.mapM Template.stateLine?
  let actions ← c.actions.mapM Template.actionLine?
  return Template.preamble c.package ++ Template.opening c.header ++ String.join states ++
    String.join actions ++ String.join (c.configs.map Template.configLine) ++ Template.closing

/-- What the text of a draft is written from, once the plugin is declared. The version of the plugin
is its own, unless that is empty; then it is that of the module, if a module is known and has
one. -/
def Draft.content? (d : Draft) : Option FileContent :=
  d.plugin.map fun p =>
    { package := d.package
      header :=
        { pluginType := p.pluginType
          moduleName := d.moduleName
          name := p.name
          description := p.description
          usage := p.usage
          version :=
            if p.version ≠ "" then p.version
            else (d.binding.bind ModuleDecl.version).getD "" }
      states := d.states
      actions := d.actions
      configs := d.configs }

/-! ## What the writer writes -/

namespace Template

theorem digitChar_eq : ∀ n < 16, Text.Literal.hexDigit n = Nat.digitChar n := by
  decide

theorem quoted_eq (c : Char) : Text.Literal.escape c = quoted c := by
  unfold Text.Literal.escape
  -- seven characters have a letter of their own
  iterate 7
    split
    · next hc => subst hc; rfl
  next hquote hbackslash hb hf hn hr ht =>
  have hlookup : letters.lookup c = none := by
    simp only [letters, List.lookup_cons, List.lookup_nil, beq_eq_false_iff_ne.mpr hquote,
      beq_eq_false_iff_ne.mpr hbackslash, beq_eq_false_iff_ne.mpr hb, beq_eq_false_iff_ne.mpr hf,
      beq_eq_false_iff_ne.mpr hn, beq_eq_false_iff_ne.mpr hr, beq_eq_false_iff_ne.mpr ht]
  rw [quoted, hlookup]
  split
  · next hc =>
    have hcontrol : c < ' ' := hc
    simp only [hcontrol, if_true, digitChar_eq (c.toNat / 16) (by omega),
      digitChar_eq (c.toNat % 16) (by omega)]
  · next hc =>
    have hcontrol : ¬ c < ' ' := hc
    simp only [hcontrol, if_false]

theorem literal_eq (text : String) : Text.Literal.write text = literal text := by
  rw [← String.toList_inj, Text.Literal.toList_write, literal, Text.Literal.chars,
    funext quoted_eq]
  simp

theorem usage_eq (u : Usage) : u.code = usage u := by
  cases u <;> rfl

theorem settingType_eq (t : SettingType) : t.code = settingType t := by
  cases t <;> rfl

theorem valueType?_eq (t : ValueType) : t.code? = valueType? t := by
  cases t with
  | enum values =>
    cases values with
    | nil => rfl
    | cons first rest =>
      rw [ValueType.code?, valueType?, if_neg (List.cons_ne_nil first rest), GoCode.call,
        funext literal_eq]
      rfl
      exact nofun
  | range min max =>
    rw [ValueType.code?, valueType?, GoCode.call, Option.some_inj, ← String.toList_inj]
    simp
  | _ => rfl

theorem member_eq (adder target name description type : String) :
    GoCode.member adder target name description type =
      member adder target name description type := by
  unfold GoCode.member GoCode.call GoCode.line member
  rw [← String.toList_inj, ← literal_eq, ← literal_eq, ← literal_eq]
  simp

theorem preamble_eq (package : String) : GoCode.preamble package = preamble package := by
  unfold GoCode.preamble GoCode.line GoCode.metadataImport GoCode.registryImport preamble
  simp only [String.append_assoc]
  rfl

theorem opening_eq (h : GoCode.Header) : GoCode.opening h = opening h := by
  unfold GoCode.opening opening
  refine congrArg _ ?_
  unfold GoCode.line GoCode.call
  rw [← String.toList_inj, usage_eq, ← literal_eq, ← literal_eq, ← literal_eq, ← literal_eq]
  simp

theorem closing_eq : GoCode.closing = closing :=
  rfl

end Template

/-! ## Drafts -/

theorem StateDecl.toOption_render (s : StateDecl) :
    s.render.toOption = Template.stateLine? s := by
  rw [render, Template.stateLine?, ← Template.valueType?_eq,
    funext (Template.member_eq "AddState" s.field s.name s.description)]
  cases s.valueType.code? <;> rfl

theorem ActionDecl.toOption_render (a : ActionDecl) :
    a.render.toOption = Template.actionLine? a := by
  rw [render, Template.actionLine?, ← Template.valueType?_eq,
    funext (Template.member_eq "AddAction" a.method a.name a.description)]
  cases a.valueType.code? <;> rfl

theorem ConfigDecl.render_eq (c : ConfigDecl) : c.render = Template.configLine c := by
  rw [render, Template.configLine, Template.member_eq, Template.settingType_eq]

theorem toOption_renderEach {α : Type} {render : α → Except BuildError String}
    {line? : α → Option String} (h : ∀ x, (render x).toOption = line? x) (xs : List α) :
    (renderEach render xs).toOption = (xs.mapM line?).map String.join := by
  have hlines : (xs.mapM render).toOption = xs.mapM line? := by
    rw [toOption_mapM]
    simp only [h]
  rw [renderEach, ← hlines]
  cases xs.mapM render <;> rfl

/-- A draft with a plugin shows what its header identifies. -/
theorem Draft.content?_of_plugin {d : Draft} {p : PluginDecl} (h : d.plugin = some p) :
    d.content? = some ⟨d.package, d.header p, d.states, d.actions, d.configs⟩ := by
  rw [content?, h, Option.map_some, header, versionOf]
  by_cases hversion : p.version = "" <;> simp only [hversion, if_true, if_false, ne_eq,
    not_true_eq_false, not_false_eq_true]

/-- The text of a draft is spelled from its content, and a draft has a text when it has a content
all of whose value types have expressions. -/
theorem Draft.toOption_render (d : Draft) :
    d.render.toOption = d.content?.bind FileContent.text? := by
  cases hplugin : d.plugin with
  | none =>
    rw [render, content?, hplugin]
    rfl
  | some p =>
    have hrender : d.render = do
        let states ← renderEach StateDecl.render d.states
        let actions ← renderEach ActionDecl.render d.actions
        return GoCode.preamble d.package ++ GoCode.opening (d.header p) ++ states ++
          actions ++ String.join (d.configs.map ConfigDecl.render) ++ GoCode.closing := by
      rw [render, hplugin]
    rw [hrender, content?_of_plugin hplugin, Option.bind_some, FileContent.text?,
      Template.preamble_eq, Template.opening_eq, Template.closing_eq, funext ConfigDecl.render_eq]
    simp only [toOption_bind, toOption_renderEach StateDecl.toOption_render,
      toOption_renderEach ActionDecl.toOption_render, Option.bind_map]
    rfl

end Registrar
