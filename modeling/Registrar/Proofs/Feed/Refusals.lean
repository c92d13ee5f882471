import Registrar.Proofs.Feed.Records

/-!
# What a record is refused with

A record is refused with what the reader of a field refuses, or because a field is given twice, is
absent, or because an array is too long. `Field.Blames` and `Schema.Blames` say that each of these
has some property, and then every refusal of the record has it. Where the record is spelled up to
what single readers make of their values, nothing else is refused. Main statements:
`Schema.property_of_read_eq_error` and `Schema.blames_of_record`.
-/

namespace Registrar.Feed

open Registrar.Json (Value)

variable {α : Type} {αs βs : List Type} {P : Mismatch → Prop} {v : Value} {why : Mismatch}

/-- An object gives a name more than once. -/
def Repeated (name : String) : Value → Prop
  | .object members => 1 < (given name members).length
  | _ => False

/-- Whatever the field makes a reader refuse in `v` has the property. `position` is that of the
field in an array. -/
structure Field.Blames (P : Mismatch → Prop) (v : Value) (position : Nat) (field : Field α) :
    Prop where
  /-- a value of the field is refused -/
  read : ∀ w, Holds field.name position v w → ∀ why, field.read w = .error why → P why
  /-- the field is given twice -/
  repeated : Repeated field.name v → P (.duplicateField field.name)
  /-- the field is absent -/
  absent : field.default = none → (∀ w, ¬ Holds field.name position v w) →
    P (.missingField field.name) ∧ ∀ expected, P (.wrongLength position expected)

namespace Fields

/-- Whatever one of the fields makes a reader refuse has the property. `position` counts the fields
before. -/
def Blames (P : Mismatch → Prop) (v : Value) : {αs : List Type} → Nat → Fields αs → Prop
  | _, _, .nil => True
  | _, position, .cons field rest => field.Blames P v position ∧ rest.Blames P v (position + 1)

/-! ## Objects -/

/-- The first member that is refused, with the slots before it. -/
theorem exists_of_storeAll_eq_error {fields : Fields αs} {slots : Slots αs}
    {members : List (String × Value)} (h : fields.storeAll slots members = .error why) :
    ∃ before name w after filled, members = before ++ (name, w) :: after ∧
      fields.storeAll slots before = .ok filled ∧ fields.store filled name w = .error why := by
  induction members generalizing slots with
  | nil => cases h
  | cons member members ih =>
    obtain ⟨name, w⟩ := member
    rw [storeAll] at h
    rcases bind_eq_error_iff.mp h with h | ⟨stored, hstored, h⟩
    · exact ⟨[], name, w, members, slots, rfl, rfl, h⟩
    · obtain ⟨before, other, u, after, filled, rfl, hfilled, hu⟩ := ih h
      refine ⟨(name, w) :: before, other, u, after, filled, rfl, ?_, hu⟩
      rw [storeAll, hstored]
      exact hfilled

theorem property_of_store_eq_error {fields : Fields αs} {position : Nat}
    {before after : List (String × Value)} {name : String} {w : Value} {slots : Slots αs}
    (hblames : fields.Blames P (.object (before ++ (name, w) :: after)) position)
    (hfilled : fields.Filled before slots) (h : fields.store slots name w = .error why) :
    P why := by
  induction fields generalizing position with
  | nil => cases h
  | cons field rest ih =>
    obtain ⟨slot, slots⟩ := slots
    obtain ⟨hslot, hslots⟩ := hfilled
    by_cases hname : name = field.name
    · subst hname
      cases slot with
      | some x =>
        rw [store_self_of_some] at h
        cases h
        -- the slot is filled by a member before this one
        rcases hslot with ⟨-, hnone⟩ | ⟨u, -, hgiven, -⟩
        · cases hnone
        · refine hblames.1.repeated ?_
          rw [Repeated, given_append, hgiven]
          simp [given]
      | none =>
        rw [store_self] at h
        rcases bind_eq_error_iff.mp h with h | ⟨_, -, h⟩
        · exact hblames.1.read w (.member (by simp)) why h
        · cases h
    · rw [store_of_ne hname] at h
      rcases bind_eq_error_iff.mp h with h | ⟨_, -, h⟩
      · exact ih hblames.2 hslots h
      · cases h

theorem property_of_close_eq_error {fields : Fields αs} {position : Nat}
    {members : List (String × Value)} {slots : Slots αs}
    (hblames : fields.Blames P (.object members) position) (hfilled : fields.Filled members slots)
    (h : fields.close slots = .error why) : P why := by
  induction fields generalizing position with
  | nil => cases h
  | cons field rest ih =>
    obtain ⟨slot, slots⟩ := slots
    obtain ⟨hslot, hslots⟩ := hfilled
    rw [close] at h
    cases hvalue : slot.or field.default with
    | none =>
      rw [hvalue] at h
      cases h
      obtain ⟨rfl, hdefault⟩ := Option.or_eq_none_iff.mp hvalue
      rcases hslot with ⟨hnone, -⟩ | ⟨_, _, _, _, hsome⟩
      · refine (hblames.1.absent hdefault ?_).1
        rintro w ⟨hmem⟩
        simpa [hnone] using mem_given_iff.mpr hmem
      · cases hsome
    | some x =>
      rw [hvalue] at h
      rcases bind_eq_error_iff.mp h with h | ⟨_, -, h⟩
      · exact ih hblames.2 hslots h
      · cases h

theorem property_of_readMembers_eq_error {fields : Fields αs} (hnames : fields.names.Nodup)
    {members : List (String × Value)} (hblames : fields.Blames P (.object members) 0)
    (h : fields.readMembers members = .error why) : P why := by
  rw [readMembers] at h
  rcases bind_eq_error_iff.mp h with h | ⟨slots, hslots, h⟩
  · obtain ⟨before, name, w, after, filled, rfl, hfilled, hstore⟩ := exists_of_storeAll_eq_error h
    exact property_of_store_eq_error hblames ((storeAll_eq_ok_iff hnames before filled).mp hfilled)
      hstore
  · exact property_of_close_eq_error hblames ((storeAll_eq_ok_iff hnames members slots).mp hslots) h

/-! ## Arrays -/

theorem property_of_readLeading_eq_error {fields : Fields αs} {whole : String}
    {all items : List Value} {position : Nat} (hblames : fields.Blames P (.array all) position)
    (hitems : all.drop position = items)
    (h : fields.readLeading whole position items = .error why) : P why := by
  induction fields generalizing items position with
  | nil => cases h
  | cons field rest ih =>
    have hnext : all.drop (position + 1) = items.tail := by
      rw [← hitems, List.tail_drop]
    cases items with
    | nil =>
      rw [readLeading] at h
      cases hdefault : field.default with
      | none =>
        rw [hdefault] at h
        cases h
        refine (hblames.1.absent hdefault ?_).2 whole
        intro w hw
        cases hw with
        | item hitem =>
          rw [← List.head?_drop, hitems] at hitem
          cases hitem
      | some x =>
        rw [hdefault] at h
        rcases bind_eq_error_iff.mp h with h | ⟨_, -, h⟩
        · exact ih hblames.2 hnext h
        · cases h
    | cons item items =>
      rw [readLeading] at h
      rcases bind_eq_error_iff.mp h with h | ⟨_, -, h⟩
      · refine hblames.1.read item (.item ?_) why h
        rw [← List.head?_drop, hitems]
        rfl
      · rcases bind_eq_error_iff.mp h with h | ⟨_, -, h⟩
        · exact ih hblames.2 hnext h
        · cases h

/-- The items left over are those behind the fields. -/
theorem drop_count_of_readLeading {fields : Fields αs} {whole : String} {position : Nat}
    {items left : List Value} {xs : Tuple αs}
    (h : fields.readLeading whole position items = .ok (xs, left)) :
    items.drop fields.count = left := by
  induction fields generalizing position items with
  | nil =>
    cases h
    rfl
  | cons field rest ih =>
    cases items with
    | nil =>
      rw [readLeading] at h
      cases hdefault : field.default with
      | none =>
        rw [hdefault] at h
        cases h
      | some x =>
        rw [hdefault] at h
        obtain ⟨⟨ys, _⟩, hys, hpair⟩ := bind_eq_ok_iff.mp h
        cases hpair
        rw [← ih hys]
        simp
    | cons item items =>
      rw [readLeading] at h
      obtain ⟨x, -, h⟩ := bind_eq_ok_iff.mp h
      obtain ⟨⟨ys, _⟩, hys, hpair⟩ := bind_eq_ok_iff.mp h
      cases hpair
      exact ih hys

theorem property_of_readItems_eq_error {fields : Fields αs} {title : String} {items : List Value}
    (hblames : fields.Blames P (.array items) 0)
    (hlong : fields.count < items.length → ∀ expected, P (.wrongLength items.length expected))
    (h : fields.readItems title items = .error why) : P why := by
  rw [readItems] at h
  rcases bind_eq_error_iff.mp h with h | ⟨⟨xs, left⟩, hleft, h⟩
  · exact property_of_readLeading_eq_error hblames List.drop_zero h
  · cases left with
    | nil => cases h
    | cons item left =>
      cases h
      refine hlong ?_ _
      have hdrop := congrArg List.length (drop_count_of_readLeading hleft)
      simp only [List.length_drop, List.length_cons] at hdrop
      omega

end Fields

/-! ## Records -/

/-- Whatever makes a reader refuse a record has the property. -/
structure Schema.Blames (P : Mismatch → Prop) (v : Value) (s : Schema α) : Prop where
  /-- it is neither an object nor an array -/
  title : (∀ members, v ≠ .object members) → (∀ items, v ≠ .array items) →
    P (.ofValue v s.title)
  /-- it is too long -/
  long : ∀ items, v = .array items → s.fields.count < items.length →
    ∀ expected, P (.wrongLength items.length expected)
  fields : s.fields.Blames P v 0

/-- A record is refused with what there is to refuse. -/
theorem Schema.property_of_read_eq_error {s : Schema α} (hnames : s.fields.names.Nodup)
    (hblames : s.Blames P v) (h : s.read v = .error why) : P why := by
  cases v with
  | object members =>
    exact Fields.property_of_readMembers_eq_error hnames hblames.fields (map_eq_error_iff.mp h)
  | array items =>
    exact Fields.property_of_readItems_eq_error hblames.fields (hblames.long items rfl)
      (map_eq_error_iff.mp h)
  | null | boolean | number | string =>
    cases h
    exact hblames.title nofun nofun

/-! ## Records that are spelled -/

/-- The fields of a reader have the names of the parts of a grammar, and are absent where these may
be. What they refuse of the values that the parts spell has the property. -/
def Fields.Follows (P : Mismatch → Prop) (v : Value) : {αs βs : List Type} → Nat → Fields αs →
    Grammar.Parts βs → Tuple βs → Prop
  | _, _, _, .nil, .nil, _ => True
  | _, _, position, .cons field fields, .cons part parts, (y, ys) =>
    field.name = part.name ∧ (field.default = none → part.default = none) ∧
      (∀ w, Holds field.name position v w → part.spells w y →
        ∀ why, field.read w = .error why → P why) ∧
      fields.Follows P v (position + 1) parts ys
  | _, _, _, _, _, _ => False

theorem Fields.blames_of_inObject {fields : Fields αs} {parts : Grammar.Parts βs} {position : Nat}
    {members : List (String × Value)} {ys : Tuple βs}
    (h : fields.Follows P (.object members) position parts ys) (hys : parts.InObject members ys) :
    fields.Blames P (.object members) position := by
  induction parts generalizing αs position with
  | nil =>
    cases fields with
    | nil => trivial
    | cons => cases h
  | cons part parts ih =>
    cases fields with
    | nil => cases h
    | cons field fields =>
    obtain ⟨y, ys⟩ := ys
    obtain ⟨hname, hdefault, hread, hrest⟩ := h
    obtain ⟨hpart, hparts⟩ := hys
    rw [← hname] at hpart
    refine ⟨⟨?_, ?_, ?_⟩, ih hrest hparts⟩
    · intro w hw why hwhy
      refine hread w hw ?_ why hwhy
      -- the value that the field holds is the one that is spelled
      cases hw with
      | member hmem =>
        have hgiven := mem_given_iff.mpr hmem
        rcases hpart with ⟨u, hu, hspells⟩ | ⟨hnone, -⟩
        · rw [hu, List.mem_singleton] at hgiven
          exact hgiven ▸ hspells
        · rw [hnone] at hgiven
          cases hgiven
    · intro hrepeated
      rcases hpart with ⟨u, hu, -⟩ | ⟨hnone, -⟩
      · simp [Repeated, hu] at hrepeated
      · simp [Repeated, hnone] at hrepeated
    · intro hnone habsent
      rcases hpart with ⟨u, hu, -⟩ | ⟨-, hsome⟩
      · exact absurd (.member (mem_of_given_eq_singleton hu)) (habsent u)
      · rw [hdefault hnone] at hsome
        cases hsome

theorem Fields.blames_of_inArray {fields : Fields αs} {parts : Grammar.Parts βs} {position : Nat}
    {all items : List Value} {ys : Tuple βs} (hitems : all.drop position = items)
    (h : fields.Follows P (.array all) position parts ys) (hys : parts.InArray items ys) :
    fields.Blames P (.array all) position ∧ items.length ≤ fields.count := by
  induction parts generalizing αs position items with
  | nil =>
    cases fields with
    | nil =>
      obtain rfl : items = [] := hys
      exact ⟨trivial, Nat.le_refl _⟩
    | cons => cases h
  | cons part parts ih =>
    cases fields with
    | nil => cases h
    | cons field fields =>
    obtain ⟨y, ys⟩ := ys
    obtain ⟨hname, hdefault, hread, hrest⟩ := h
    have hnext : all.drop (position + 1) = items.tail := by
      rw [← hitems, List.tail_drop]
    have hfirst : all[position]? = items.head? := by
      rw [← List.head?_drop, hitems]
    cases items with
    | nil =>
      obtain ⟨hsome, hparts⟩ := hys
      obtain ⟨hfields, hlength⟩ := ih hnext hrest hparts
      refine ⟨⟨⟨?_, False.elim, ?_⟩, hfields⟩, Nat.zero_le _⟩
      · intro w hw
        cases hw with
        | item hitem =>
          rw [hfirst] at hitem
          cases hitem
      · intro hnone
        rw [hdefault hnone] at hsome
        cases hsome
    | cons item items =>
      obtain ⟨hspells, hparts⟩ := hys
      obtain ⟨hfields, hlength⟩ := ih hnext hrest hparts
      refine ⟨⟨⟨?_, False.elim, ?_⟩, hfields⟩, Nat.succ_le_succ hlength⟩
      · intro w hw why hwhy
        refine hread w hw ?_ why hwhy
        cases hw with
        | item hitem =>
          rw [hfirst] at hitem
          cases hitem
          exact hspells
      · intro _ habsent
        exact absurd (.item hfirst) (habsent item)

/-- A record that is spelled is refused for the values of its fields alone. -/
theorem Schema.blames_of_record {s : Schema α} {parts : Grammar.Parts βs} {ys : Tuple βs}
    (h : s.fields.Follows P v 0 parts ys) (hys : Grammar.record parts v ys) : s.Blames P v := by
  cases v with
  | object members =>
    exact ⟨fun h => absurd rfl (h members), nofun, Fields.blames_of_inObject h hys⟩
  | array items =>
    obtain ⟨hfields, hlength⟩ := Fields.blames_of_inArray List.drop_zero h hys
    refine ⟨fun _ h => absurd rfl (h items), ?_, hfields⟩
    rintro _ ⟨⟩ hlong
    omega
  | null | boolean | number | string => cases hys

end Registrar.Feed
