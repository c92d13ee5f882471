import Mathlib.Data.List.Basic
import Registrar.Event
import Registrar.Feed.Schema

/-!
# How events are spelled in JSON

A grammar says which JSON values spell a value of some kind, without saying how they are read. A
record is spelled by an object, whose members may stand in any order and among others, or by an
array of its fields in their order. A tagged value is spelled by its tag and, beside it, the
spelling of the rest.
-/

namespace Registrar.Feed

open Registrar.Json (Value)

/-- Which JSON values spell which values of a kind. -/
abbrev Grammar (α : Type) :=
  Value → α → Prop

/-- The values that an object gives to a name, in their order. -/
def given (name : String) (members : List (String × Value)) : List Value :=
  (members.filter (·.1 = name)).map Prod.snd

/-- The members of an object that have another name. -/
def others (name : String) (members : List (String × Value)) : List (String × Value) :=
  members.filter (·.1 ≠ name)

namespace Grammar

variable {α : Type} {αs : List Type}

/-! ## Simple values -/

/-- A string spells its text. -/
def text : Grammar String :=
  fun v s => v = .string s

/-- A string spells a path. -/
def path : Grammar Path :=
  fun v p => v = .string p.text

/-- An integer spells the number of 64 bits that it is. -/
def integer : Grammar Int64 :=
  fun v n => v = .number (.integer n.toInt)

/-- A string spells a version, and `null` spells none. -/
def version : Grammar (Option String)
  | .null, s => s = none
  | v, s => ∃ t, v = .string t ∧ s = some t

/-- One of several names: the name, or an object with that name alone, which holds nothing. -/
def choice (name : α → String) : Grammar α :=
  fun v a => v = .string (name a) ∨ v = .object [(name a, .null)] ∨
    v = .object [(name a, .object [])]

/-- An array spells the list that its items spell. -/
def list (item : Grammar α) : Grammar (List α) :=
  fun v xs => ∃ items, v = .array items ∧ List.Forall₂ item items xs

/-! ## Records -/

/-- One field of a record. -/
structure Part (α : Type) where
  name : String
  spells : Grammar α
  /-- what the field is when it is absent, where it may be absent -/
  default : Option α

/-- The fields of a record, in their order. -/
inductive Parts : List Type → Type 1 where
  | nil : Parts []
  | cons {α : Type} {αs : List Type} (part : Part α) (rest : Parts αs) : Parts (α :: αs)

/-- Every field is given once, or not at all and has a default. Other members and the order do not
matter. -/
def Parts.InObject : {αs : List Type} → Parts αs → List (String × Value) → Tuple αs → Prop
  | _, .nil, _, _ => True
  | _, .cons part rest, members, (x, xs) =>
    ((∃ v, given part.name members = [v] ∧ part.spells v x) ∨
      given part.name members = [] ∧ part.default = some x) ∧ rest.InObject members xs

/-- The items spell the fields in their order. Fields at the end may be left out when they have
defaults, and nothing follows the last one. -/
def Parts.InArray : {αs : List Type} → Parts αs → List Value → Tuple αs → Prop
  | _, .nil, items, _ => items = []
  | _, .cons part rest, item :: items, (x, xs) => part.spells item x ∧ rest.InArray items xs
  | _, .cons part rest, [], (x, xs) => part.default = some x ∧ rest.InArray [] xs

/-- An object or an array spells a record. -/
def record (parts : Parts αs) : Grammar (Tuple αs)
  | .object members, xs => parts.InObject members xs
  | .array items, xs => parts.InArray items xs
  | _, _ => False

/-! ## Tags -/

/-- A value carries a label under a name, once, and the rest of it stands beside. In an array the
label is the first item. -/
inductive Tagged (name label : String) : Value → Value → Prop where
  | object {members : List (String × Value)} (h : given name members = [.string label]) :
    Tagged name label (.object members) (.object (others name members))
  | array {items : List Value} : Tagged name label (.array (.string label :: items)) (.array items)

/-! ## Value types -/

/-- The bounds of a range. -/
def rangeParts : Parts [Int64, Int64] :=
  .cons ⟨"min", integer, none⟩ (.cons ⟨"max", integer, none⟩ .nil)

/-- The values of an enumeration. -/
def enumParts : Parts [List String] :=
  .cons ⟨"values", list text, none⟩ .nil

/-- What stands beside the tag of a value type. Beside the tag of a type without parts anything
stands in an object, and nothing in an array. -/
def typeRest : Grammar ValueType
  | rest, .range min max => record rangeParts rest (min, max, ())
  | rest, .enum values => record enumParts rest (values, ())
  | .object _, _ => True
  | rest, _ => rest = .array []

/-- A value type carries its form under `type`. -/
def valueType : Grammar ValueType :=
  fun v t => ∃ rest, Tagged "type" t.kindName v rest ∧ typeRest rest t

/-! ## Declarations -/

/-- The fields of a location. -/
def locationParts : Parts [Path, Path, String] :=
  .cons ⟨"dir", path, none⟩ (.cons ⟨"root", path, none⟩ (.cons ⟨"package", text, none⟩ .nil))

/-- The location of an occurrence. -/
def location : Grammar Location :=
  fun v l => record locationParts v (l.dir, l.root, l.package, ())

/-- The field of a module. -/
def moduleParts : Parts [Option String] :=
  .cons ⟨"version", version, some none⟩ .nil

/-- The declaration of a module. -/
def moduleDecl : Grammar ModuleDecl :=
  fun v m => record moduleParts v (m.version, ())

/-- The fields of a plugin. -/
def pluginParts : Parts [String, String, String, Usage, String] :=
  .cons ⟨"plugin_type", text, none⟩ (.cons ⟨"name", text, none⟩
    (.cons ⟨"description", text, some ""⟩ (.cons ⟨"usage", choice Usage.name, none⟩
      (.cons ⟨"version", text, some ""⟩ .nil))))

/-- The declaration of a plugin. -/
def pluginDecl : Grammar PluginDecl :=
  fun v p => record pluginParts v (p.pluginType, p.name, p.description, p.usage, p.version, ())

/-- The fields of a member of a plugin: the identifier that it belongs to, its own name, its
description and its type. -/
def memberParts (target : String) (type : Grammar α) : Parts [String, String, String, α] :=
  .cons ⟨target, text, none⟩ (.cons ⟨"name", text, none⟩
    (.cons ⟨"description", text, some ""⟩ (.cons ⟨"value_type", type, none⟩ .nil)))

/-- The declaration of a state. -/
def stateDecl : Grammar StateDecl :=
  fun v s => record (memberParts "field" valueType) v
    (s.field, s.name, s.description, s.valueType, ())

/-- The declaration of an action. -/
def actionDecl : Grammar ActionDecl :=
  fun v a => record (memberParts "method" valueType) v
    (a.method, a.name, a.description, a.valueType, ())

/-- The declaration of a configuration field. -/
def configDecl : Grammar ConfigDecl :=
  fun v c => record (memberParts "field" (choice SettingType.name)) v
    (c.field, c.name, c.description, c.valueType, ())

/-! ## Events -/

/-- The fields of an occurrence. -/
def occurrenceParts (declaration : Grammar α) : Parts [Location, List α] :=
  .cons ⟨"location", location, none⟩ (.cons ⟨"annotations", list declaration, none⟩ .nil)

/-- An occurrence of annotations of one kind. -/
def occurrence (declaration : Grammar α) : Grammar (Occurrence α) :=
  fun v o => record (occurrenceParts declaration) v (o.location, o.annotations, ())

/-- What stands beside the tag of an event. -/
def eventRest : Grammar Event
  | rest, .module o => occurrence moduleDecl rest o
  | rest, .plugin o => occurrence pluginDecl rest o
  | rest, .state o => occurrence stateDecl rest o
  | rest, .action o => occurrence actionDecl rest o
  | rest, .config o => occurrence configDecl rest o

/-- An event carries its kind under `kind`. -/
def event : Grammar Event :=
  fun v e => ∃ rest, Tagged "kind" e.kind.name v rest ∧ eventRest rest e

end Grammar

/-! ## Numbers in the place of tags -/

/-- A value holds another one under a name or, when it is an array, at a position. -/
inductive Holds (name : String) (position : Nat) : Value → Value → Prop where
  | member {members : List (String × Value)} {v : Value} (h : (name, v) ∈ members) :
    Holds name position (.object members) v
  | item {items : List Value} {v : Value} (h : items[position]? = some v) :
    Holds name position (.array items) v

/-- A number stands in the place of the tag of a value type. -/
def NumberAsTag (type : Value) : Prop :=
  ∃ n, Holds "type" 0 type (.number n)

/-- Some state or action of an event has a number in the place of the tag of its value type. -/
def HoldsNumberAsTag (event : Value) : Prop :=
  ∃ kind ∈ [Kind.state, Kind.action], Holds "kind" 0 event (.string kind.name) ∧
    ∃ declarations, Holds "annotations" 2 event (.array declarations) ∧
      ∃ declaration ∈ declarations, ∃ type, Holds "value_type" 3 declaration type ∧
        NumberAsTag type

end Registrar.Feed
