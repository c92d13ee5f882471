import Registrar.Proofs.Feed.Events
import Registrar.Proofs.Json.Reader

/-!
# Nothing is refused too early

A text is refused as soon as its tag is bad. Whatever part of a value a reader has seen, if
`Tag.watch` refuses it then no value with that part can be split by the tag. So a text is read as an
event exactly when its value is. Main statement: `Event.read_eq_ok_iff_spells`.
-/

namespace Registrar

open Feed
open Json (Value Reader Frame Form)

namespace Feed.Tag

variable {α : Type} {tag : Tag α} {r : Reader} {v : Value} {p : α × Value}

/-- Whatever stands in the place of the tag is read as the label of the value. -/
theorem readLabel_of_holds (h : tag.split tag.readLabel v = .ok p) {w : Value}
    (hw : Holds tag.name 0 v w) : tag.readLabel w = .ok p.1 := by
  cases hw with
  | @member members _ hmem =>
    rw [split, bind_eq_ok_iff] at h
    obtain ⟨⟨a, left⟩, hsplit, hpair⟩ := h
    cases hpair
    obtain ⟨u, hgiven, hu, -⟩ := splitMembers_eq_ok_iff.mp hsplit
    have hw : w ∈ given tag.name members := mem_given_iff.mpr hmem
    rw [hgiven, List.mem_singleton] at hw
    rw [hw]
    exact hu
  | @item items _ hitem =>
    cases items with
    | nil => cases h
    | cons first items =>
      rw [split, bind_eq_ok_iff] at h
      obtain ⟨a, hfirst, hpair⟩ := h
      cases hpair
      cases hitem
      exact hfirst

theorem refuse_eq_none {w : Value} {a : α} (h : tag.readLabel w = .ok a) : tag.refuse w = none := by
  rw [refuse, h]

/-- Two members with the name of the tag leave no value that can be split. -/
theorem not_colon_twice {members all : List (String × Value)} {name : String} {x : Value}
    (h : tag.split tag.readLabel (.object all) = .ok p)
    (hbegin : members.reverse ++ [(name, x)] <+: all) :
    ¬ (name = tag.name ∧ ∃ member ∈ members, member.1 = tag.name) := by
  rintro ⟨rfl, ⟨_, w⟩, hmem, rfl⟩
  rw [split, bind_eq_ok_iff] at h
  obtain ⟨⟨a, left⟩, hsplit, -⟩ := h
  obtain ⟨u, hgiven, -⟩ := splitMembers_eq_ok_iff.mp hsplit
  obtain ⟨more, rfl⟩ := hbegin
  have hw : w ∈ given tag.name members.reverse := mem_given_iff.mpr (List.mem_reverse.mpr hmem)
  have hlength := congrArg List.length hgiven
  rw [given_append, given_append, given_singleton_self] at hlength
  have hpos := List.length_pos_of_mem hw
  simp only [List.length_append, List.length_cons, List.length_nil] at hlength
  omega

/-- A value that can be split is an object or an array. -/
theorem container_of_split (h : tag.split tag.readLabel v = .ok p) :
    (∃ members, v = .object members) ∨ ∃ items, v = .array items := by
  cases v with
  | object members => exact .inl ⟨members, rfl⟩
  | array items => exact .inr ⟨items, rfl⟩
  | null | boolean | number | string => cases h

/-- What has been seen of a value that can be split is not refused. -/
theorem watch_eq_none (hr : r.Within v) (h : tag.split tag.readLabel v = .ok p) :
    tag.watch r = none := by
  have hlabel := fun w hw => readLabel_of_holds h (w := w) hw
  obtain ⟨stack, mode⟩ := r
  dsimp only [watch]
  split
  · rfl
  · rfl
  · -- the value is complete and no container
    rename_i value harray hobject
    obtain rfl : value = v := hr
    rcases container_of_split h with ⟨members, rfl⟩ | ⟨items, rfl⟩
    · exact absurd rfl (hobject members)
    · exact absurd rfl (harray items)
  · -- a name was read
    rename_i members name
    obtain ⟨x, all, hall, rfl⟩ := hr
    rw [if_neg]
    simpa using not_colon_twice h hall
  · -- a member is complete
    rename_i name value before
    obtain ⟨all, hall, rfl⟩ := hr
    split_ifs with hname
    · subst hname
      exact refuse_eq_none (hlabel value (.member (hall.subset (by simp))))
    · rfl
  · -- the first item is complete
    rename_i value
    obtain ⟨all, hall, rfl⟩ := hr
    obtain ⟨more, rfl⟩ := hall
    exact refuse_eq_none (hlabel value (.item rfl))
  · -- the first item is an array
    obtain ⟨inner, -, all, ⟨more, rfl⟩, rfl⟩ := hr
    cases hlabel (.array inner) (.item rfl)
  · -- the first item is an object
    obtain ⟨inner, -, all, ⟨more, rfl⟩, rfl⟩ := hr
    cases hlabel (.object inner) (.item rfl)
  · -- a member is an array
    rename_i before name
    obtain ⟨inner, -, all, hall, rfl⟩ := hr
    split_ifs with hname
    · subst hname
      cases hlabel (.array inner) (.member (hall.subset (by simp)))
    · rfl
  · -- a member is an object
    rename_i before name
    obtain ⟨inner, -, all, hall, rfl⟩ := hr
    split_ifs with hname
    · subst hname
      cases hlabel (.object inner) (.member (hall.subset (by simp)))
    · rfl
  · rfl

end Feed.Tag

/-! ## Events -/

/-- Nothing is refused on the way to an event. -/
theorem Event.watch_form_eq_none {r : Reader} {v : Value} {e : Event} (hr : r.Within v)
    (h : Event.form.decode v = .ok e) : Event.form.watch r = none := by
  obtain ⟨p, hsplit, -⟩ := bind_eq_ok_iff.mp h
  exact Tag.watch_eq_none hr hsplit

theorem Event.read_form_eq_ok_iff {bytes : Text.Bytes} {v : Value}
    (h : Value.ofBytes? bytes = some v) (e : Event) :
    Event.form.read bytes = .ok e ↔ Event.ofValue v = .ok e := by
  have hread : Form.any.readFrom Reader.start bytes = .ok v := by
    rw [Value.ofBytes?, Form.read] at h
    cases hany : Form.any.readFrom Reader.start bytes with
    | error why =>
      rw [hany] at h
      cases h
    | ok value =>
      rw [hany] at h
      cases h
      rfl
  exact Form.readFrom_eq_ok_iff (fun _ _ _ => Event.watch_form_eq_none) hread

/-- The values that spell an event are read as that event, and no others, whether as values or as
texts. Only a number in the place of the tag of a value type is set aside. -/
theorem Event.read_eq_ok_iff_spells {v : Value} (hv : ¬ HoldsNumberAsTag v) (e : Event) :
    (Event.ofValue v = .ok e ↔ Grammar.event v e) ∧
      ∀ bytes, Value.ofBytes? bytes = some v →
        (Event.form.read bytes = .ok e ↔ Grammar.event v e) := by
  refine ⟨Event.ofValue_eq_ok_iff hv e, fun bytes hbytes => ?_⟩
  rw [Event.read_form_eq_ok_iff hbytes, Event.ofValue_eq_ok_iff hv]

/-- The report of a state. Its members are out of order, with an unknown one among them, and it
mixes objects and arrays. -/
def sampleReport : Value :=
  .object [("note", .null),
    ("annotations", .array [.array [.string "Level", .string "level", .string "",
      .object [("max", .ofInt 9), ("type", .string "range"), ("min", .ofInt (-1))]]]),
    ("kind", .string "state"),
    ("location", .array [.string "a/b", .string "a", .string "b"])]

/-- The text of the report. -/
def sampleReportText : Text.Bytes :=
  Text.encode ("\x7b\"note\":null,\"annotations\":[[\"Level\",\"level\",\"\"," ++
    "\x7b\"max\":9,\"type\":\"range\",\"min\":-1\x7d]],\"kind\":\"state\"," ++
    "\"location\":[\"a/b\",\"a\",\"b\"]\x7d")

/-- The state that is reported. -/
def sampleReported : Event :=
  .state ⟨⟨⟨"a/b"⟩, ⟨"a"⟩, "b"⟩, [⟨"Level", "level", "", .range (-1) 9⟩]⟩

theorem sampleReport_read :
    ¬ HoldsNumberAsTag sampleReport ∧ Value.ofBytes? sampleReportText = some sampleReport ∧
      Grammar.event sampleReport sampleReported ∧
      Event.ofValue sampleReport = .ok sampleReported ∧
      Event.form.read sampleReportText = .ok sampleReported := by
  have hv : ¬ HoldsNumberAsTag sampleReport := by
    rintro ⟨kind, -, -, declarations, ⟨hdeclarations⟩, declaration, hmem, type, htype, n, hn⟩
    obtain rfl : declarations = _ := by simpa [sampleReport] using hdeclarations
    obtain rfl : declaration = _ := by simpa using hmem
    cases htype with
    | item h =>
      obtain rfl := Option.some.inj h
      cases hn with
      | member h => simp at h
  have htext : Value.ofBytes? sampleReportText = some sampleReport := by
    set_option maxRecDepth 20000 in rfl
  have htype : Grammar.valueType
      (.object [("max", .ofInt 9), ("type", .string "range"), ("min", .ofInt (-1))])
      (.range (-1) 9) := by
    refine ⟨_, .object (by simp [given, ValueType.kindName]), ?_⟩
    simp [others, given, Grammar.typeRest, Grammar.record, Grammar.rangeParts,
      Grammar.Parts.InObject, Grammar.integer, Value.ofInt]
  have hspells : Grammar.event sampleReport sampleReported := by
    refine ⟨_, .object (by simp [given, sampleReported, Event.kind, Kind.name]), ?_⟩
    simp [others, given, sampleReported, Grammar.eventRest, Grammar.occurrence, Grammar.record,
      Grammar.occurrenceParts, Grammar.Parts.InObject, Grammar.Parts.InArray, Grammar.location,
      Grammar.locationParts, Grammar.path, Grammar.text, Grammar.list, Grammar.stateDecl,
      Grammar.memberParts, htype]
  have hread := Event.read_eq_ok_iff_spells hv sampleReported
  exact ⟨hv, htext, hspells, hread.1.mpr hspells, (hread.2 _ htext).mpr hspells⟩

end Registrar
