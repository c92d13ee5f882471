import Registrar.Feed.Encode
import Registrar.Proofs.Feed.Stream
import Registrar.Proofs.Json.RoundTrip

/-!
# Feeds read back

The canonical value of an event spells the event, and its text gives the value back, so the text of
an event is read as the event. Events leave nothing behind in the reader of a feed, and neither do
the blanks between them. Main statement: `read_write`.
-/

namespace Registrar

open Feed
open Json (Reader Value Form isBlankByte)
open Text (Bytes)

/-! ## The canonical value of an event -/

theorem ValueType.spells_toValue (t : ValueType) : Grammar.valueType t.toValue t := by
  cases t with
  | range min max =>
    refine ⟨_, .object (given_cons_self "type" _ _), ?_⟩
    simp [others, given, Grammar.typeRest, Grammar.record, Grammar.rangeParts,
      Grammar.Parts.InObject, Grammar.integer, Value.ofInt]
  | enum values =>
    refine ⟨_, .object (given_cons_self "type" _ _), ?_⟩
    simp [others, given, Grammar.typeRest, Grammar.record, Grammar.enumParts,
      Grammar.Parts.InObject, Grammar.list, Grammar.text]
  | text | float | bool | complex => exact ⟨_, .object (given_cons_self "type" _ _), trivial⟩

theorem Location.spells_toValue (l : Location) : Grammar.location l.toValue l := by
  simp [toValue, Grammar.location, Grammar.record, Grammar.locationParts, Grammar.Parts.InObject,
    given, Grammar.path, Grammar.text]

theorem ModuleDecl.spells_toValue (m : ModuleDecl) : Grammar.moduleDecl m.toValue m := by
  obtain ⟨version⟩ := m
  cases version <;>
    simp [toValue, Grammar.moduleDecl, Grammar.record, Grammar.moduleParts, Grammar.Parts.InObject,
      given, Grammar.version]

theorem PluginDecl.spells_toValue (p : PluginDecl) : Grammar.pluginDecl p.toValue p := by
  simp [toValue, Grammar.pluginDecl, Grammar.record, Grammar.pluginParts, Grammar.Parts.InObject,
    given, Grammar.text, Grammar.choice]

theorem StateDecl.spells_toValue (s : StateDecl) : Grammar.stateDecl s.toValue s := by
  simp [toValue, Grammar.stateDecl, Grammar.record, Grammar.memberParts, Grammar.Parts.InObject,
    given, Grammar.text, s.valueType.spells_toValue]

theorem ActionDecl.spells_toValue (a : ActionDecl) : Grammar.actionDecl a.toValue a := by
  simp [toValue, Grammar.actionDecl, Grammar.record, Grammar.memberParts, Grammar.Parts.InObject,
    given, Grammar.text, a.valueType.spells_toValue]

theorem ConfigDecl.spells_toValue (c : ConfigDecl) : Grammar.configDecl c.toValue c := by
  simp [toValue, Grammar.configDecl, Grammar.record, Grammar.memberParts, Grammar.Parts.InObject,
    given, Grammar.text, Grammar.choice]

/-- An occurrence stands beside a tag in front of its members. -/
theorem Occurrence.exists_tagged {α : Type} {declaration : α → Value} {spells : Grammar α}
    (h : ∀ a, spells (declaration a) a) (o : Occurrence α) (tag : String) :
    ∃ rest, Grammar.Tagged "kind" tag (.object (("kind", .string tag) :: o.members declaration))
      rest ∧ Grammar.occurrence spells rest o := by
  refine ⟨_, .object (given_cons_self "kind" _ _), ?_⟩
  simp [members, others, Grammar.occurrence, Grammar.record, Grammar.occurrenceParts,
    Grammar.Parts.InObject, given, Grammar.list, List.forall₂_map_left_iff, List.forall₂_same,
    o.location.spells_toValue, h]

/-- The canonical value of an event spells it. -/
theorem Event.spells_toValue (e : Event) : Grammar.event e.toValue e := by
  cases e with
  | module o => exact o.exists_tagged ModuleDecl.spells_toValue Kind.module.name
  | plugin o => exact o.exists_tagged PluginDecl.spells_toValue Kind.plugin.name
  | state o => exact o.exists_tagged StateDecl.spells_toValue Kind.state.name
  | action o => exact o.exists_tagged ActionDecl.spells_toValue Kind.action.name
  | config o => exact o.exists_tagged ConfigDecl.spells_toValue Kind.config.name

/-! ## Tags of the canonical value -/

theorem ValueType.not_numberAsTag_toValue (t : ValueType) : ¬ NumberAsTag t.toValue := by
  rintro ⟨n, ⟨h⟩⟩
  cases t <;> simp at h

theorem StateDecl.eq_of_holds_type {s : StateDecl} {type : Value}
    (h : Holds "value_type" 3 s.toValue type) : type = s.valueType.toValue := by
  obtain ⟨h⟩ := h
  simpa using h

theorem ActionDecl.eq_of_holds_type {a : ActionDecl} {type : Value}
    (h : Holds "value_type" 3 a.toValue type) : type = a.valueType.toValue := by
  obtain ⟨h⟩ := h
  simpa using h

theorem Kind.name_injective : Function.Injective Kind.name := by
  intro kind other h
  cases kind <;> cases other <;> first | rfl | exact absurd h (by decide)

theorem Event.kind_eq_of_holds_tag {e : Event} {kind : Kind}
    (h : Holds "kind" 0 e.toValue (.string kind.name)) : kind = e.kind := by
  obtain ⟨h⟩ := h
  refine Kind.name_injective ?_
  cases e <;> simpa [Occurrence.members] using h

/-- No number stands in the place of the tag of a value type. -/
theorem Event.not_holdsNumberAsTag_toValue (e : Event) : ¬ HoldsNumberAsTag e.toValue := by
  rintro ⟨kind, hkind, htag, declarations, ⟨hdeclarations⟩, declaration, hmem, type, htype,
    hnumber⟩
  obtain rfl : kind = e.kind := kind_eq_of_holds_tag htag
  cases e with
  | state o =>
    obtain rfl : declarations = o.annotations.map StateDecl.toValue := by
      simpa [Occurrence.members] using hdeclarations
    obtain ⟨s, -, rfl⟩ := List.mem_map.mp hmem
    exact s.valueType.not_numberAsTag_toValue (StateDecl.eq_of_holds_type htype ▸ hnumber)
  | action o =>
    obtain rfl : declarations = o.annotations.map ActionDecl.toValue := by
      simpa [Occurrence.members] using hdeclarations
    obtain ⟨a, -, rfl⟩ := List.mem_map.mp hmem
    exact a.valueType.not_numberAsTag_toValue (ActionDecl.eq_of_holds_type htype ▸ hnumber)
  | module | plugin | config =>
    -- the event reports neither a state nor an action
    simp [kind] at hkind

theorem Event.ofValue_toValue (e : Event) : Event.ofValue e.toValue = .ok e :=
  (Event.ofValue_eq_ok_iff e.not_holdsNumberAsTag_toValue e).mpr e.spells_toValue

/-! ## The text of the canonical value -/

theorem Json.Numeral.fits_toInt (n : Int64) : Numeral.Fits n.toInt := by
  have hlt := n.toInt_lt
  refine ⟨n.minValue_le_toInt, ?_⟩
  change n.toInt < 18446744073709551616
  omega

theorem ValueType.plain_toValue (t : ValueType) (depth : Nat) : t.toValue.Plain (depth + 2) := by
  cases t with
  | range min max =>
    refine .object ?_
    simp [Value.Plain.string, Value.Plain.integer, Json.Numeral.fits_toInt]
  | enum values =>
    refine .object ?_
    have hvalues : (Value.array (values.map .string)).Plain (depth + 1) := by
      refine .array ?_
      simp [Value.Plain.string]
    simp [Value.Plain.string, hvalues]
  | text | float | bool | complex =>
    refine .object ?_
    simp [Value.Plain.string]

theorem Location.plain_toValue (l : Location) (depth : Nat) : l.toValue.Plain (depth + 1) := by
  refine .object ?_
  simp [Value.Plain.string]

theorem ModuleDecl.plain_toValue (m : ModuleDecl) (depth : Nat) : m.toValue.Plain (depth + 1) := by
  refine .object ?_
  obtain ⟨version⟩ := m
  cases version <;> simp [Value.Plain.string, Value.Plain.null]

theorem PluginDecl.plain_toValue (p : PluginDecl) (depth : Nat) : p.toValue.Plain (depth + 1) := by
  refine .object ?_
  simp [Value.Plain.string]

theorem StateDecl.plain_toValue (s : StateDecl) (depth : Nat) : s.toValue.Plain (depth + 3) := by
  refine .object ?_
  simp [Value.Plain.string, s.valueType.plain_toValue]

theorem ActionDecl.plain_toValue (a : ActionDecl) (depth : Nat) : a.toValue.Plain (depth + 3) := by
  refine .object ?_
  simp [Value.Plain.string, a.valueType.plain_toValue]

theorem ConfigDecl.plain_toValue (c : ConfigDecl) (depth : Nat) : c.toValue.Plain (depth + 1) := by
  refine .object ?_
  simp [Value.Plain.string]

/-- The tag and the members of an occurrence are one container around those of its parts. -/
theorem Occurrence.plain_members {α : Type} {declaration : α → Value} {depth : Nat}
    (h : ∀ a, (declaration a).Plain depth) (o : Occurrence α) (tag : String) :
    (Value.object (("kind", .string tag) :: o.members declaration)).Plain (depth + 2) := by
  have hannotations : (Value.array (o.annotations.map declaration)).Plain (depth + 1) := by
    refine .array ?_
    simp [h]
  refine .object ?_
  simp [members, Value.Plain.string, o.location.plain_toValue, hannotations]

/-- An event has at most five containers inside one another. -/
theorem Event.plain_toValue (e : Event) (depth : Nat) : e.toValue.Plain (depth + 5) := by
  cases e with
  | module o => exact o.plain_members (fun m => m.plain_toValue (depth + 2)) _
  | plugin o => exact o.plain_members (fun p => p.plain_toValue (depth + 2)) _
  | state o => exact o.plain_members (fun s => s.plain_toValue depth) _
  | action o => exact o.plain_members (fun a => a.plain_toValue depth) _
  | config o => exact o.plain_members (fun c => c.plain_toValue (depth + 2)) _

/-- The text of an event is read as the event. -/
theorem Event.read_encode (e : Event) : Event.form.read e.encode = .ok e := by
  have hvalue : Value.ofBytes? e.encode = some e.toValue :=
    Value.ofBytes?_write (e.plain_toValue 122)
  exact (Event.read_form_eq_ok_iff hvalue e).mpr e.ofValue_toValue

namespace Feed

/-! ## Feeds -/

/-- A choice of blanks, possibly none. -/
abbrev Blanks :=
  { bytes : Bytes // ∀ b ∈ bytes, isBlankByte b = true }

/-- The texts of events in their order, each behind blanks, and blanks at the end. -/
def write (parts : List (Blanks × Event)) (last : Blanks) : Bytes :=
  parts.flatMap (fun part => part.1 ++ part.2.encode) ++ last

/-- Blanks between events leave the reader where it is. -/
theorem foldlM_advance_blanks (blanks : Blanks) (events : List Event) :
    blanks.1.foldlM Progress.advance ⟨events, Reader.start⟩ = .ok ⟨events, Reader.start⟩ := by
  obtain ⟨bytes, h⟩ := blanks
  induction bytes with
  | nil => rfl
  | cons b bytes ih =>
    obtain ⟨hb, hbytes⟩ := List.forall_mem_cons.mp h
    have hadvance : Progress.advance ⟨events, Reader.start⟩ b = .ok ⟨events, Reader.start⟩ := by
      refine Progress.advance_eq_ok_iff.mpr ⟨Reader.start, ?_, .inr ⟨nofun, rfl⟩⟩
      exact Form.advance_eq_ok_iff.mpr ⟨Reader.start, rfl, rfl, if_pos hb, rfl⟩
    rw [List.foldlM_cons, hadvance]
    exact ih hbytes

/-- What is read as an event alone is read as the event in a feed. -/
theorem foldlM_advance_of_readFrom {r : Reader} {bytes : Bytes} {e : Event}
    (hr : ∀ v, r.mode ≠ .done v) (h : Event.form.readFrom r bytes = .ok e) (events : List Event) :
    bytes.foldlM Progress.advance ⟨events, r⟩ = .ok ⟨e :: events, Reader.start⟩ := by
  induction bytes generalizing r with
  | nil => exact absurd h (Event.close_form_ne_ok hr e)
  | cons b bytes ih =>
    obtain ⟨next, hadvance, hnext⟩ := Form.readFrom_cons_eq_ok_iff.mp h
    rw [List.foldlM_cons]
    rcases hnext with ⟨v, hmode, hdecode, hblank⟩ | ⟨hmode, hrest⟩
    · -- the byte completes the event, and the blanks behind it stand between events
      have hstep : Progress.advance ⟨events, r⟩ b = .ok ⟨e :: events, Reader.start⟩ :=
        Progress.advance_eq_ok_iff.mpr ⟨next, hadvance, .inl ⟨v, e, hmode, hdecode, rfl⟩⟩
      rw [hstep]
      exact foldlM_advance_blanks ⟨bytes, List.all_eq_true.mp hblank⟩ (e :: events)
    · have hstep : Progress.advance ⟨events, r⟩ b = .ok ⟨events, next⟩ :=
        Progress.advance_eq_ok_iff.mpr ⟨next, hadvance, .inr ⟨hmode, rfl⟩⟩
      rw [hstep]
      exact ih hmode hrest

/-- Blanks and events leave the events with the reader, which stands where a new one stands. -/
theorem foldlM_advance_parts (parts : List (Blanks × Event)) (events : List Event) :
    (parts.flatMap (fun part => part.1.1 ++ part.2.encode)).foldlM Progress.advance
        ⟨events, Reader.start⟩ =
      .ok ⟨(parts.map Prod.snd).reverse ++ events, Reader.start⟩ := by
  induction parts generalizing events with
  | nil => rfl
  | cons part parts ih =>
    have hstart : ∀ v, Reader.start.mode ≠ .done v := nofun
    have hevent : part.2.encode.foldlM Progress.advance ⟨events, Reader.start⟩ =
        .ok ⟨part.2 :: events, Reader.start⟩ :=
      foldlM_advance_of_readFrom hstart part.2.read_encode events
    have hpart : (part.1.1 ++ part.2.encode).foldlM Progress.advance ⟨events, Reader.start⟩ =
        .ok ⟨part.2 :: events, Reader.start⟩ := by
      rw [List.foldlM_append, foldlM_advance_blanks]
      exact hevent
    rw [List.flatMap_cons, List.foldlM_append, hpart, List.map_cons, List.reverse_cons,
      List.append_assoc]
    exact ih (part.2 :: events)

/-- Events that were written one after another, with any blanks before, between and behind them,
are read as these events. -/
theorem read_write (parts : List (Blanks × Event)) (last : Blanks) :
    read (write parts last) = .ok (parts.map Prod.snd) := by
  have hrun : (write parts last).foldlM Progress.advance Progress.start =
      .ok ⟨(parts.map Prod.snd).reverse, Reader.start⟩ := by
    rw [write, List.foldlM_append, Progress.start, foldlM_advance_parts, List.append_nil]
    exact foldlM_advance_blanks last _
  rw [read, hrun]
  change Progress.close ⟨(parts.map Prod.snd).reverse, Reader.start⟩ = _
  rw [Progress.close, if_pos (isBetween_iff.mpr rfl), List.reverse_reverse]

end Feed

end Registrar
