import Registrar.Feed.Decode
import Registrar.Proofs.Feed.Tags

/-!
# Events are read as the grammar spells them

Every reader of the feed, from strings up to events, understands exactly the values that spell what
it reads. Where numbers might stand in the place of the tag of a value type, the reader understands
more; `NumberAsTag` and `HoldsNumberAsTag` say where that is. Main statement:
`Event.ofValue_eq_ok_iff`.
-/

namespace Registrar

open Feed
open Json (Value)

/-! ## Simple values -/

theorem Feed.readString_eq_ok_iff (v : Value) (s : String) :
    readString v = .ok s ↔ Grammar.text v s := by
  cases v <;> simp [readString, Grammar.text]

theorem Path.ofValue_eq_ok_iff (v : Value) (p : Path) :
    Path.ofValue v = .ok p ↔ Grammar.path v p := by
  cases v with
  | string s =>
    refine ⟨?_, ?_⟩
    · intro h
      cases h
      rfl
    · intro h
      cases h
      rfl
  | null | boolean | number | array | object => simp [Path.ofValue, Grammar.path]

theorem Feed.readVersion_eq_ok_iff (v : Value) (s : Option String) :
    readVersion v = .ok s ↔ Grammar.version v s := by
  cases v with
  | null => exact ⟨fun h => (Except.ok.inj h).symm, fun h => congrArg _ h.symm⟩
  | string t =>
    refine ⟨?_, ?_⟩
    · intro h
      exact ⟨t, rfl, (Except.ok.inj h).symm⟩
    · rintro ⟨_, ht, rfl⟩
      cases ht
      rfl
  | boolean | number | array | object =>
    refine ⟨?_, ?_⟩
    · intro h
      cases h
    · rintro ⟨_, h, -⟩
      cases h

/-- The integers of 64 bits are read, and they alone. -/
theorem Feed.readInt64_eq_ok_iff (v : Value) (n : Int64) :
    readInt64 v = .ok n ↔ Grammar.integer v n := by
  cases v with
  | number number =>
    cases number with
    | floating x => simp [readInt64, Grammar.integer]
    | integer m =>
      rw [readInt64, Grammar.integer]
      -- every number of 64 bits is in the range, and what is in the range keeps its value
      by_cases hrange : Int64.minValue.toInt ≤ m ∧ m ≤ Int64.maxValue.toInt
      · have hm : (Int64.ofInt m).toInt = m :=
          Int64.toInt_ofInt_of_le hrange.1 (Int.lt_of_le_sub_one hrange.2)
        rw [if_pos hrange]
        refine ⟨?_, ?_⟩
        · intro h
          cases h
          rw [hm]
        · intro h
          cases h
          rw [Int64.ofInt_toInt]
      · rw [if_neg hrange]
        refine ⟨?_, ?_⟩
        · intro h
          cases h
        · intro h
          cases h
          exact absurd ⟨n.minValue_le_toInt, n.toInt_le⟩ hrange
  | null | boolean | string | array | object => simp [readInt64, Grammar.integer]

theorem Usage.ofValue_eq_ok_iff (v : Value) (u : Usage) :
    Usage.ofValue v = .ok u ↔ Grammar.choice Usage.name v u := by
  have hall : ∀ u, u ∈ Usage.all := by
    intro u
    cases u <;> decide
  have hname : Function.Injective Usage.name := by
    intro u w h
    cases u <;> cases w <;> first | rfl | exact absurd h (by decide)
  exact readVariant_eq_ok_iff hall hname v u

theorem SettingType.ofValue_eq_ok_iff (v : Value) (t : SettingType) :
    SettingType.ofValue v = .ok t ↔ Grammar.choice SettingType.name v t := by
  have hall : ∀ t, t ∈ SettingType.all := by
    intro t
    cases t <;> decide
  have hname : Function.Injective SettingType.name := by
    intro t w h
    cases t <;> cases w <;> first | rfl | exact absurd h (by decide)
  exact readVariant_eq_ok_iff hall hname v t

/-! ## Value types -/

theorem rangeSchema_read_eq_ok_iff (v : Value) (t : ValueType) :
    rangeSchema.read v = .ok t ↔
      ∃ min max, Grammar.record Grammar.rangeParts v (min, max, ()) ∧ .range min max = t := by
  have hfields : rangeSchema.fields.Agree v 0 Grammar.rangeParts :=
    ⟨rfl, rfl, fun w _ => readInt64_eq_ok_iff w, rfl, rfl, fun w _ => readInt64_eq_ok_iff w,
      trivial⟩
  rw [Schema.read_eq_ok_iff (by decide) hfields]
  refine ⟨?_, ?_⟩
  · rintro ⟨⟨min, max, ⟨⟩⟩, hrecord, hmake⟩
    exact ⟨min, max, hrecord, hmake⟩
  · rintro ⟨min, max, hrecord, hmake⟩
    exact ⟨_, hrecord, hmake⟩

theorem enumSchema_read_eq_ok_iff (v : Value) (t : ValueType) :
    enumSchema.read v = .ok t ↔
      ∃ values, Grammar.record Grammar.enumParts v (values, ()) ∧ .enum values = t := by
  have hfields : enumSchema.fields.Agree v 0 Grammar.enumParts :=
    ⟨rfl, rfl, fun w _ => readList_eq_ok_iff fun _ _ item _ => readString_eq_ok_iff item, trivial⟩
  rw [Schema.read_eq_ok_iff (by decide) hfields]
  refine ⟨?_, ?_⟩
  · rintro ⟨⟨values, ⟨⟩⟩, hrecord, hmake⟩
    exact ⟨values, hrecord, hmake⟩
  · rintro ⟨values, hrecord, hmake⟩
    exact ⟨_, hrecord, hmake⟩

/-- Beside the tag of a type without parts nothing stands in an array, and anything in an object. -/
theorem readNothing_eq_ok_iff {type : ValueType} {rest : Value}
    (hrest : (∃ members, rest = .object members) ∨ ∃ items, rest = .array items) (t : ValueType) :
    readNothing type rest = .ok t ↔
      type = t ∧ ((∃ members, rest = .object members) ∨ rest = .array []) := by
  obtain ⟨members, rfl⟩ | ⟨items, rfl⟩ := hrest
  · simp [readNothing]
  · cases items <;> simp [readNothing]

/-- The types without parts. -/
theorem Feed.Grammar.typeRest_iff {rest : Value} {t : ValueType}
    (ht : t ∈ [ValueType.text, .float, .bool, .complex]) :
    Grammar.typeRest rest t ↔ (∃ members, rest = .object members) ∨ rest = .array [] := by
  cases t with
  | range | enum => simp at ht
  | text | float | bool | complex => cases rest <;> simp [typeRest]

/-- What stands beside the tag of a value type is read as it is spelled. -/
theorem ValueForm.readRest_eq_ok_iff {form : ValueForm} {rest : Value}
    (hrest : (∃ members, rest = .object members) ∨ ∃ items, rest = .array items) (t : ValueType) :
    form.readRest rest = .ok t ↔ form.name = t.kindName ∧ Grammar.typeRest rest t := by
  cases form with
  | range =>
    rw [readRest, rangeSchema_read_eq_ok_iff]
    cases t <;> simp [name, ValueType.kindName, Grammar.typeRest]
  | enum =>
    rw [readRest, enumSchema_read_eq_ok_iff]
    cases t <;> simp [name, ValueType.kindName, Grammar.typeRest]
  | text | float | bool | complex =>
    rw [readRest, readNothing_eq_ok_iff hrest]
    cases t <;> simp [name, ValueType.kindName, Grammar.typeRest_iff]

/-- Every value type has a form. -/
theorem ValueType.exists_form (t : ValueType) : ∃ form : ValueForm, form.name = t.kindName := by
  cases t with
  | range => exact ⟨.range, rfl⟩
  | text => exact ⟨.text, rfl⟩
  | float => exact ⟨.float, rfl⟩
  | bool => exact ⟨.bool, rfl⟩
  | enum => exact ⟨.enum, rfl⟩
  | complex => exact ⟨.complex, rfl⟩

/-- A value type is read as it is spelled, unless a number stands in the place of its tag. -/
theorem ValueType.ofValue_eq_ok_iff {v : Value} (hv : ¬ NumberAsTag v) (t : ValueType) :
    ValueType.ofValue v = .ok t ↔ Grammar.valueType v t := by
  have hall : ∀ form, form ∈ ValueType.tag.all := by
    intro form
    cases form <;> decide
  have hname : Function.Injective ValueType.tag.label := by
    intro form other h
    cases form <;> cases other <;> first | rfl | exact absurd h (by decide)
  have hread : ∀ form w, Holds "type" 0 v w →
      (ValueType.tag.readLabelOrPosition w = .ok form ↔ w = .string form.name) := by
    intro form w hw
    rw [Tag.readLabelOrPosition_eq_readLabel, Tag.readLabel_eq_ok_iff hall hname]
    · rfl
    · rintro n rfl
      exact hv ⟨n, hw⟩
  rw [ValueType.ofValue, bind_eq_ok_iff]
  refine ⟨?_, ?_⟩
  · rintro ⟨⟨form, rest⟩, hsplit, hrest⟩
    have htagged := (Tag.split_eq_ok_iff (hread form)).mp hsplit
    obtain ⟨hform, hrest⟩ := (ValueForm.readRest_eq_ok_iff htagged.rest_cases t).mp hrest
    exact ⟨rest, hform ▸ htagged, hrest⟩
  · rintro ⟨rest, htagged, hrest⟩
    obtain ⟨form, hform⟩ := t.exists_form
    rw [← hform] at htagged
    exact ⟨(form, rest), (Tag.split_eq_ok_iff (hread form)).mpr htagged,
      (ValueForm.readRest_eq_ok_iff htagged.rest_cases t).mpr ⟨hform, hrest⟩⟩

/-! ## Declarations -/

theorem Location.schema_read_eq_ok_iff (v : Value) (l : Location) :
    Location.schema.read v = .ok l ↔ Grammar.location v l := by
  have hfields : Location.schema.fields.Agree v 0 Grammar.locationParts :=
    ⟨rfl, rfl, fun w _ => Path.ofValue_eq_ok_iff w, rfl, rfl, fun w _ => Path.ofValue_eq_ok_iff w,
      rfl, rfl, fun w _ => readString_eq_ok_iff w, trivial⟩
  exact Schema.read_eq_ok_iff_record (by decide) hfields
    (fun l => (l.dir, l.root, l.package, ())) (fun _ => rfl) (fun _ => rfl) l

theorem ModuleDecl.schema_read_eq_ok_iff (v : Value) (m : ModuleDecl) :
    ModuleDecl.schema.read v = .ok m ↔ Grammar.moduleDecl v m := by
  have hfields : ModuleDecl.schema.fields.Agree v 0 Grammar.moduleParts :=
    ⟨rfl, rfl, fun w _ => readVersion_eq_ok_iff w, trivial⟩
  exact Schema.read_eq_ok_iff_record (by decide) hfields
    (fun m => (m.version, ())) (fun _ => rfl) (fun _ => rfl) m

theorem PluginDecl.schema_read_eq_ok_iff (v : Value) (p : PluginDecl) :
    PluginDecl.schema.read v = .ok p ↔ Grammar.pluginDecl v p := by
  have hfields : PluginDecl.schema.fields.Agree v 0 Grammar.pluginParts :=
    ⟨rfl, rfl, fun w _ => readString_eq_ok_iff w, rfl, rfl, fun w _ => readString_eq_ok_iff w,
      rfl, rfl, fun w _ => readString_eq_ok_iff w, rfl, rfl, fun w _ => Usage.ofValue_eq_ok_iff w,
      rfl, rfl, fun w _ => readString_eq_ok_iff w, trivial⟩
  exact Schema.read_eq_ok_iff_record (by decide) hfields
    (fun p => (p.pluginType, p.name, p.description, p.usage, p.version, ()))
    (fun _ => rfl) (fun _ => rfl) p

/-- The members of a plugin have the same fields up to the name of the first and the type. -/
theorem Feed.Fields.agree_memberParts {α : Type} (target : String) {read : Value → Result α}
    {spells : Grammar α} {v : Value}
    (h : ∀ w, Holds "value_type" 3 v w → ∀ t, read w = .ok t ↔ spells w t) :
    (Fields.cons ⟨target, readString, none⟩ (.cons ⟨"name", readString, none⟩
      (.cons ⟨"description", readString, some ""⟩ (.cons ⟨"value_type", read, none⟩ .nil)))).Agree
        v 0 (Grammar.memberParts target spells) :=
  ⟨rfl, rfl, fun w _ => readString_eq_ok_iff w, rfl, rfl, fun w _ => readString_eq_ok_iff w,
    rfl, rfl, fun w _ => readString_eq_ok_iff w, rfl, rfl, h, trivial⟩

theorem StateDecl.schema_read_eq_ok_iff {v : Value}
    (hv : ∀ type, Holds "value_type" 3 v type → ¬ NumberAsTag type) (s : StateDecl) :
    StateDecl.schema.read v = .ok s ↔ Grammar.stateDecl v s := by
  have hfields : StateDecl.schema.fields.Agree v 0
      (Grammar.memberParts "field" Grammar.valueType) :=
    Fields.agree_memberParts "field" fun w hw => ValueType.ofValue_eq_ok_iff (hv w hw)
  exact Schema.read_eq_ok_iff_record (by decide) hfields
    (fun s => (s.field, s.name, s.description, s.valueType, ()))
    (fun _ => rfl) (fun _ => rfl) s

theorem ActionDecl.schema_read_eq_ok_iff {v : Value}
    (hv : ∀ type, Holds "value_type" 3 v type → ¬ NumberAsTag type) (a : ActionDecl) :
    ActionDecl.schema.read v = .ok a ↔ Grammar.actionDecl v a := by
  have hfields : ActionDecl.schema.fields.Agree v 0
      (Grammar.memberParts "method" Grammar.valueType) :=
    Fields.agree_memberParts "method" fun w hw => ValueType.ofValue_eq_ok_iff (hv w hw)
  exact Schema.read_eq_ok_iff_record (by decide) hfields
    (fun a => (a.method, a.name, a.description, a.valueType, ()))
    (fun _ => rfl) (fun _ => rfl) a

theorem ConfigDecl.schema_read_eq_ok_iff (v : Value) (c : ConfigDecl) :
    ConfigDecl.schema.read v = .ok c ↔ Grammar.configDecl v c := by
  have hfields : ConfigDecl.schema.fields.Agree v 0
      (Grammar.memberParts "field" (Grammar.choice SettingType.name)) :=
    Fields.agree_memberParts "field" fun w _ => SettingType.ofValue_eq_ok_iff w
  exact Schema.read_eq_ok_iff_record (by decide) hfields
    (fun c => (c.field, c.name, c.description, c.valueType, ()))
    (fun _ => rfl) (fun _ => rfl) c

/-! ## Events -/

/-- An occurrence is read as it is spelled when its declarations are. -/
theorem Occurrence.schema_read_eq_ok_iff {α : Type} {declaration : Schema α} {spells : Grammar α}
    {v : Value}
    (h : ∀ declarations, Holds "annotations" 1 v (.array declarations) →
      ∀ w ∈ declarations, ∀ a, declaration.read w = .ok a ↔ spells w a) (o : Occurrence α) :
    (Occurrence.schema declaration).read v = .ok o ↔ Grammar.occurrence spells v o := by
  have hlist : ∀ w, Holds "annotations" 1 v w → ∀ xs,
      readList declaration.read w = .ok xs ↔ Grammar.list spells w xs := by
    intro w hw
    exact readList_eq_ok_iff fun declarations hdeclarations => h declarations (hdeclarations ▸ hw)
  have hfields : (Occurrence.schema declaration).fields.Agree v 0
      (Grammar.occurrenceParts spells) :=
    ⟨rfl, rfl, fun w _ => Location.schema_read_eq_ok_iff w, rfl, rfl, hlist, trivial⟩
  have hnames : (Occurrence.schema declaration).fields.names.Nodup := by
    change ["location", "annotations"].Nodup
    decide
  exact Schema.read_eq_ok_iff_record hnames hfields
    (fun o => (o.location, o.annotations, ())) (fun _ => rfl) (fun _ => rfl) o

/-- What stands beside the tag of an event is read as it is spelled. -/
theorem Kind.readRest_eq_ok_iff {kind : Kind} {v rest : Value}
    (htagged : Grammar.Tagged "kind" kind.name v rest) (hv : ¬ HoldsNumberAsTag v) (e : Event) :
    kind.readRest rest = .ok e ↔ kind = e.kind ∧ Grammar.eventRest rest e := by
  -- the value types of states and actions are the only places where numbers might be tags
  have htypes : kind = .state ∨ kind = .action → ∀ declarations,
      Holds "annotations" 1 rest (.array declarations) → ∀ w ∈ declarations,
        ∀ type, Holds "value_type" 3 w type → ¬ NumberAsTag type := by
    intro hkind declarations hdeclarations w hw type htype hnumber
    exact hv ⟨kind, by simpa using hkind, htagged.holds_tag, declarations,
      htagged.holds hdeclarations, w, hw, type, htype, hnumber⟩
  cases kind with
  | module =>
    rw [readRest, map_eq_ok_iff]
    simp only [Occurrence.schema_read_eq_ok_iff fun _ _ w _ => ModuleDecl.schema_read_eq_ok_iff w]
    cases e <;> simp [Event.kind, Grammar.eventRest]
  | plugin =>
    rw [readRest, map_eq_ok_iff]
    simp only [Occurrence.schema_read_eq_ok_iff fun _ _ w _ => PluginDecl.schema_read_eq_ok_iff w]
    cases e <;> simp [Event.kind, Grammar.eventRest]
  | state =>
    rw [readRest, map_eq_ok_iff]
    simp only [Occurrence.schema_read_eq_ok_iff fun declarations hdeclarations w hw =>
      StateDecl.schema_read_eq_ok_iff (htypes (.inl rfl) declarations hdeclarations w hw)]
    cases e <;> simp [Event.kind, Grammar.eventRest]
  | action =>
    rw [readRest, map_eq_ok_iff]
    simp only [Occurrence.schema_read_eq_ok_iff fun declarations hdeclarations w hw =>
      ActionDecl.schema_read_eq_ok_iff (htypes (.inr rfl) declarations hdeclarations w hw)]
    cases e <;> simp [Event.kind, Grammar.eventRest]
  | config =>
    rw [readRest, map_eq_ok_iff]
    simp only [Occurrence.schema_read_eq_ok_iff fun _ _ w _ => ConfigDecl.schema_read_eq_ok_iff w]
    cases e <;> simp [Event.kind, Grammar.eventRest]

/-- The tag of an event is read from strings alone. -/
theorem Event.readLabel_tag_eq_ok_iff (v : Value) (kind : Kind) :
    Event.tag.readLabel v = .ok kind ↔ v = .string kind.name := by
  have hall : ∀ kind, kind ∈ Event.tag.all := by
    intro kind
    cases kind <;> decide
  have hname : Function.Injective Event.tag.label := by
    intro kind other h
    cases kind <;> cases other <;> first | rfl | exact absurd h (by decide)
  exact Tag.readLabel_eq_ok_iff hall hname v kind

/-- An event is read as it is spelled, unless a number stands in the place of the tag of a value
type. -/
theorem Event.ofValue_eq_ok_iff {v : Value} (hv : ¬ HoldsNumberAsTag v) (e : Event) :
    Event.ofValue v = .ok e ↔ Grammar.event v e := by
  have hread : ∀ kind w, Holds "kind" 0 v w →
      (Event.tag.readLabel w = .ok kind ↔ w = .string kind.name) :=
    fun kind w _ => Event.readLabel_tag_eq_ok_iff w kind
  rw [Event.ofValue, bind_eq_ok_iff]
  refine ⟨?_, ?_⟩
  · rintro ⟨⟨kind, rest⟩, hsplit, hrest⟩
    have htagged := (Tag.split_eq_ok_iff (hread kind)).mp hsplit
    obtain ⟨rfl, hspells⟩ := (Kind.readRest_eq_ok_iff htagged hv e).mp hrest
    exact ⟨rest, htagged, hspells⟩
  · rintro ⟨rest, htagged, hrest⟩
    exact ⟨(e.kind, rest), (Tag.split_eq_ok_iff (hread e.kind)).mpr htagged,
      (Kind.readRest_eq_ok_iff htagged hv e).mpr ⟨rfl, hrest⟩⟩

end Registrar
