import Mathlib.Data.List.Forall2
import Mathlib.Data.List.Induction
import Registrar.Proofs.Feed.Grammar
import Registrar.Proofs.Result

/-!
# Records are read as the grammar spells them

`Fields.readMembers` passes through the members of an object once and keeps a slot for every field.
The invariant is `Fields.Filled`: after every prefix of the members, the slot of a field holds what
the prefix gives to its name. From it follows that the order of the members does not matter, and
that unknown members do not either. Main statements: `Schema.read_eq_ok_iff` and
`readList_eq_ok_iff`.
-/

namespace Registrar.Feed

open Registrar.Json (Value)

variable {α : Type} {αs : List Type}

/-! ## What a name is given -/

theorem given_append (name : String) (members more : List (String × Value)) :
    given name (members ++ more) = given name members ++ given name more := by
  simp [given]

theorem given_singleton_self (name : String) (v : Value) : given name [(name, v)] = [v] := by
  simp [given]

theorem given_singleton_of_ne {name other : String} (h : other ≠ name) (v : Value) :
    given name [(other, v)] = [] := by
  simp [given, h]

theorem mem_given_iff {name : String} {members : List (String × Value)} {v : Value} :
    v ∈ given name members ↔ (name, v) ∈ members := by
  refine ⟨?_, ?_⟩
  · intro h
    obtain ⟨⟨other, w⟩, hfilter, rfl⟩ := List.mem_map.mp h
    obtain ⟨hmem, hname⟩ := List.mem_filter.mp hfilter
    obtain rfl : other = name := of_decide_eq_true hname
    exact hmem
  · intro h
    exact List.mem_map.mpr ⟨(name, v), List.mem_filter.mpr ⟨h, by simp⟩, rfl⟩

theorem mem_of_given_eq_singleton {name : String} {members : List (String × Value)} {v : Value}
    (h : given name members = [v]) : (name, v) ∈ members :=
  mem_given_iff.mp (h ▸ List.mem_singleton_self v)

/-! ## Objects -/

namespace Fields

/-- The names of the fields. -/
def names : {αs : List Type} → Fields αs → List String
  | _, .nil => []
  | _, .cons field rest => field.name :: rest.names

/-- The slot of a field holds what its name was given: nothing, or one value that was read. -/
def Slot (field : Field α) (values : List Value) (slot : Option α) : Prop :=
  values = [] ∧ slot = none ∨ ∃ v x, values = [v] ∧ field.read v = .ok x ∧ slot = some x

/-- Every slot holds what the members give to the name of its field. -/
def Filled : {αs : List Type} → Fields αs → List (String × Value) → Slots αs → Prop
  | _, .nil, _, _ => True
  | _, .cons field rest, members, (slot, slots) =>
    Slot field (given field.name members) slot ∧ rest.Filled members slots

theorem slot_nil_iff {field : Field α} {slot : Option α} : Slot field [] slot ↔ slot = none := by
  refine ⟨?_, fun h => .inl ⟨rfl, h⟩⟩
  rintro (⟨-, h⟩ | ⟨_, _, h, -⟩)
  · exact h
  · cases h

/-- One more value is taken by a slot that is empty. -/
theorem slot_append_iff {field : Field α} {values : List Value} {v : Value} {slot : Option α} :
    Slot field (values ++ [v]) slot ↔
      Slot field values none ∧ ∃ x, field.read v = .ok x ∧ slot = some x := by
  refine ⟨?_, ?_⟩
  · rintro (⟨h, -⟩ | ⟨w, x, hvalues, hread, hslot⟩)
    · cases List.append_ne_nil_of_right_ne_nil values (List.cons_ne_nil v []) h
    · obtain ⟨rfl, rfl⟩ : values = [] ∧ v = w := by
        cases values with
        | nil => exact ⟨rfl, List.head_eq_of_cons_eq hvalues⟩
        | cons first more => simp at hvalues
      exact ⟨.inl ⟨rfl, rfl⟩, x, hread, hslot⟩
  · rintro ⟨hnone, x, hread, hslot⟩
    rcases hnone with ⟨rfl, -⟩ | ⟨_, _, -, -, h⟩
    · exact .inr ⟨v, x, rfl, hread, hslot⟩
    · cases h

theorem filled_noSlots (fields : Fields αs) (slots : Slots αs) :
    fields.Filled [] slots ↔ slots = fields.noSlots := by
  induction fields with
  | nil => exact ⟨fun _ => rfl, fun _ => trivial⟩
  | cons field rest ih =>
    obtain ⟨slot, slots⟩ := slots
    simp only [Filled, given, List.filter_nil, List.map_nil, slot_nil_iff, ih]
    refine ⟨?_, ?_⟩
    · rintro ⟨rfl, rfl⟩
      rfl
    · intro h
      exact ⟨congrArg Prod.fst h, congrArg Prod.snd h⟩

/-- A member that is no field changes no slot. -/
theorem filled_append_of_not_mem {fields : Fields αs} {name : String} (h : name ∉ fields.names)
    (members : List (String × Value)) (v : Value) (slots : Slots αs) :
    fields.Filled (members ++ [(name, v)]) slots ↔ fields.Filled members slots := by
  induction fields with
  | nil => exact Iff.rfl
  | cons field rest ih =>
    obtain ⟨slot, slots⟩ := slots
    obtain ⟨hname, hrest⟩ : name ≠ field.name ∧ name ∉ rest.names := by simpa [names] using h
    simp only [Filled, given_append, given_singleton_of_ne hname, List.append_nil, ih hrest]

theorem store_self (field : Field α) (rest : Fields αs) (slots : Slots αs) (v : Value) :
    (cons field rest).store (none, slots) field.name v =
      (field.read v >>= fun x => .ok (some x, slots)) :=
  if_pos rfl

theorem store_self_of_some (field : Field α) (rest : Fields αs) (slots : Slots αs) (x : α)
    (v : Value) :
    (cons field rest).store (some x, slots) field.name v = .error (.duplicateField field.name) :=
  if_pos rfl

theorem store_of_ne {field : Field α} {name : String} (h : name ≠ field.name) (rest : Fields αs)
    (slot : Option α) (slots : Slots αs) (v : Value) :
    (cons field rest).store (slot, slots) name v =
      (rest.store slots name v >>= fun filled => .ok (slot, filled)) :=
  if_neg h

theorem store_self_eq_ok_iff {field : Field α} {rest : Fields αs} {slot filled : Option α}
    {slots others : Slots αs} {v : Value} :
    (cons field rest).store (slot, slots) field.name v = .ok (filled, others) ↔
      slot = none ∧ (∃ x, field.read v = .ok x ∧ filled = some x) ∧ slots = others := by
  cases slot with
  | some x =>
    rw [store_self_of_some]
    refine ⟨?_, ?_⟩
    · intro h
      cases h
    · rintro ⟨h, -⟩
      cases h
  | none =>
    rw [store_self]
    refine ⟨?_, ?_⟩
    · intro h
      obtain ⟨x, hread, hpair⟩ := bind_eq_ok_iff.mp h
      cases hpair
      exact ⟨rfl, ⟨x, hread, rfl⟩, rfl⟩
    · rintro ⟨-, ⟨x, hread, rfl⟩, rfl⟩
      exact bind_eq_ok_iff.mpr ⟨x, hread, rfl⟩

theorem store_of_ne_eq_ok_iff {field : Field α} {name : String} (h : name ≠ field.name)
    {rest : Fields αs} {slot filled : Option α} {slots others : Slots αs} {v : Value} :
    (cons field rest).store (slot, slots) name v = .ok (filled, others) ↔
      slot = filled ∧ rest.store slots name v = .ok others := by
  rw [store_of_ne h]
  refine ⟨?_, ?_⟩
  · intro hstores
    obtain ⟨stored, hstore, hpair⟩ := bind_eq_ok_iff.mp hstores
    cases hpair
    exact ⟨rfl, hstore⟩
  · rintro ⟨rfl, hstore⟩
    exact bind_eq_ok_iff.mpr ⟨others, hstore, rfl⟩

/-- Taking one more member fills the slots with one more member. -/
theorem filled_append_iff {fields : Fields αs} (hnames : fields.names.Nodup)
    (members : List (String × Value)) (name : String) (v : Value) (filled : Slots αs) :
    fields.Filled (members ++ [(name, v)]) filled ↔
      ∃ slots, fields.Filled members slots ∧ fields.store slots name v = .ok filled := by
  induction fields with
  | nil => exact ⟨fun _ => ⟨(), trivial, rfl⟩, fun _ => trivial⟩
  | cons field rest ih =>
    obtain ⟨slot, slots⟩ := filled
    obtain ⟨hfresh, hrest⟩ := List.nodup_cons.mp hnames
    by_cases hname : name = field.name
    · -- the member is for this field, and for no later one
      subst hname
      simp only [Filled, given_append, given_singleton_self, filled_append_of_not_mem hfresh,
        slot_append_iff]
      refine ⟨?_, ?_⟩
      · rintro ⟨⟨hslot, hread⟩, hslots⟩
        exact ⟨(none, slots), ⟨hslot, hslots⟩, store_self_eq_ok_iff.mpr ⟨rfl, hread, rfl⟩⟩
      · rintro ⟨⟨before, slots'⟩, ⟨hslot, hslots⟩, hstore⟩
        obtain ⟨rfl, hread, rfl⟩ := store_self_eq_ok_iff.mp hstore
        exact ⟨⟨hslot, hread⟩, hslots⟩
    · simp only [Filled, given_append, given_singleton_of_ne hname, List.append_nil, ih hrest]
      refine ⟨?_, ?_⟩
      · rintro ⟨hslot, slots', hslots, hstore⟩
        exact ⟨(slot, slots'), ⟨hslot, hslots⟩, (store_of_ne_eq_ok_iff hname).mpr ⟨rfl, hstore⟩⟩
      · rintro ⟨⟨before, slots'⟩, ⟨hslot, hslots⟩, hstore⟩
        obtain ⟨rfl, hstore'⟩ := (store_of_ne_eq_ok_iff hname).mp hstore
        exact ⟨hslot, slots', hslots, hstore'⟩

theorem storeAll_append (fields : Fields αs) (slots : Slots αs)
    (members more : List (String × Value)) :
    fields.storeAll slots (members ++ more) =
      (fields.storeAll slots members >>= fun filled => fields.storeAll filled more) := by
  induction members generalizing slots with
  | nil => rfl
  | cons member members ih =>
    obtain ⟨name, v⟩ := member
    rw [List.cons_append, storeAll, storeAll]
    cases fields.store slots name v with
    | error why => rfl
    | ok filled => exact ih filled

/-- Taking all members fills the slots with what they give. -/
theorem storeAll_eq_ok_iff {fields : Fields αs} (hnames : fields.names.Nodup)
    (members : List (String × Value)) (filled : Slots αs) :
    fields.storeAll fields.noSlots members = .ok filled ↔ fields.Filled members filled := by
  induction members using List.reverseRecOn generalizing filled with
  | nil =>
    rw [filled_noSlots, storeAll]
    exact ⟨fun h => (Except.ok.inj h).symm, fun h => congrArg _ h.symm⟩
  | append_singleton members member ih =>
    obtain ⟨name, v⟩ := member
    rw [storeAll_append, bind_eq_ok_iff, filled_append_iff hnames]
    refine exists_congr fun slots => and_congr (ih slots) ?_
    rw [storeAll]
    cases fields.store slots name v <;> exact Iff.rfl

theorem close_cons_eq_ok_iff {field : Field α} {rest : Fields αs} {slot : Option α}
    {slots : Slots αs} {x : α} {xs : Tuple αs} :
    (cons field rest).close (slot, slots) = .ok (x, xs) ↔
      slot.or field.default = some x ∧ rest.close slots = .ok xs := by
  rw [close]
  cases slot.or field.default with
  | none =>
    refine ⟨?_, ?_⟩
    · intro h
      cases h
    · rintro ⟨h, -⟩
      cases h
  | some y =>
    change (rest.close slots >>= fun ys => Except.ok (y, ys)) = .ok (x, xs) ↔ _
    rw [bind_eq_ok_iff]
    refine ⟨?_, ?_⟩
    · rintro ⟨ys, hys, hpair⟩
      obtain ⟨rfl, rfl⟩ := Prod.mk.inj (Except.ok.inj hpair)
      exact ⟨rfl, hys⟩
    · rintro ⟨hx, hxs⟩
      obtain rfl := Option.some.inj hx
      exact ⟨xs, hxs, rfl⟩

/-! ## Agreement with a grammar -/

/-- The fields of a reader are the parts of a grammar: they have the same names and defaults, and of
the values that `v` holds in the place of a field they understand the same. `position` counts the
fields before. -/
def Agree (v : Value) : {αs : List Type} → Nat → Fields αs → Grammar.Parts αs → Prop
  | _, _, .nil, .nil => True
  | _, position, .cons field fields, .cons part parts =>
    field.name = part.name ∧ field.default = part.default ∧
      (∀ w, Holds field.name position v w → ∀ x, field.read w = .ok x ↔ part.spells w x) ∧
        fields.Agree v (position + 1) parts

/-- What the slots of an object close to is what the object spells. -/
theorem exists_filled_iff_inObject {fields : Fields αs} {parts : Grammar.Parts αs} {position : Nat}
    {members : List (String × Value)} (h : fields.Agree (.object members) position parts)
    (xs : Tuple αs) :
    (∃ slots, fields.Filled members slots ∧ fields.close slots = .ok xs) ↔
      parts.InObject members xs := by
  induction fields generalizing position with
  | nil =>
    cases parts
    exact ⟨fun _ => trivial, fun _ => ⟨(), trivial, rfl⟩⟩
  | cons field fields ih =>
    cases parts with
    | cons part parts =>
    obtain ⟨hname, hdefault, hread, hrest⟩ := h
    obtain ⟨x, xs⟩ := xs
    simp only [Grammar.Parts.InObject, ← ih hrest, ← hname, ← hdefault]
    -- a value given to the name of the field is one that the field and the part agree on
    have hspells : ∀ {v}, given field.name members = [v] → ∀ y,
        field.read v = .ok y ↔ part.spells v y :=
      fun hgiven => hread _ (.member (mem_of_given_eq_singleton hgiven))
    refine ⟨?_, ?_⟩
    · rintro ⟨⟨slot, slots⟩, ⟨hslot, hslots⟩, hclose⟩
      obtain ⟨hx, hxs⟩ := close_cons_eq_ok_iff.mp hclose
      refine ⟨?_, slots, hslots, hxs⟩
      rcases hslot with ⟨hnone, rfl⟩ | ⟨v, y, hgiven, hv, rfl⟩
      · exact .inr ⟨hnone, hx⟩
      · obtain rfl : y = x := by simpa using hx
        exact .inl ⟨v, hgiven, (hspells hgiven y).mp hv⟩
    · rintro ⟨hpart, slots, hslots, hxs⟩
      rcases hpart with ⟨v, hgiven, hv⟩ | ⟨hnone, hx⟩
      · exact ⟨(some x, slots), ⟨.inr ⟨v, x, hgiven, (hspells hgiven x).mpr hv, rfl⟩, hslots⟩,
          close_cons_eq_ok_iff.mpr ⟨rfl, hxs⟩⟩
      · exact ⟨(none, slots), ⟨.inl ⟨hnone, rfl⟩, hslots⟩, close_cons_eq_ok_iff.mpr ⟨hx, hxs⟩⟩

theorem readMembers_eq_ok_iff {fields : Fields αs} (hnames : fields.names.Nodup)
    {parts : Grammar.Parts αs} {members : List (String × Value)}
    (h : fields.Agree (.object members) 0 parts) (xs : Tuple αs) :
    fields.readMembers members = .ok xs ↔ parts.InObject members xs := by
  rw [readMembers, bind_eq_ok_iff, ← exists_filled_iff_inObject h]
  simp only [storeAll_eq_ok_iff hnames]

/-! ## Arrays -/

theorem readLeading_cons_eq_ok_iff {whole : String} {field : Field α} {rest : Fields αs}
    {position : Nat} {item : Value} {items : List Value} {x : α} {xs : Tuple αs} :
    (cons field rest).readLeading whole position (item :: items) = .ok ((x, xs), []) ↔
      field.read item = .ok x ∧ rest.readLeading whole (position + 1) items = .ok (xs, []) := by
  rw [readLeading, bind_eq_ok_iff]
  refine ⟨?_, ?_⟩
  · rintro ⟨y, hy, hrest⟩
    obtain ⟨⟨ys, left⟩, hys, hpair⟩ := bind_eq_ok_iff.mp hrest
    cases hpair
    exact ⟨hy, hys⟩
  · rintro ⟨hx, hxs⟩
    exact ⟨x, hx, bind_eq_ok_iff.mpr ⟨(xs, []), hxs, rfl⟩⟩

theorem readLeading_nil_eq_ok_iff {whole : String} {field : Field α} {rest : Fields αs}
    {position : Nat} {x : α} {xs : Tuple αs} :
    (cons field rest).readLeading whole position [] = .ok ((x, xs), []) ↔
      field.default = some x ∧ rest.readLeading whole (position + 1) [] = .ok (xs, []) := by
  rw [readLeading]
  cases field.default with
  | none =>
    refine ⟨?_, ?_⟩
    · intro h
      cases h
    · rintro ⟨h, -⟩
      cases h
  | some y =>
    refine ⟨?_, ?_⟩
    · intro h
      obtain ⟨⟨ys, left⟩, hys, hpair⟩ := bind_eq_ok_iff.mp h
      cases hpair
      exact ⟨rfl, hys⟩
    · rintro ⟨hx, hxs⟩
      cases hx
      exact bind_eq_ok_iff.mpr ⟨(xs, []), hxs, rfl⟩

/-- Reading the items from a position on, in the order of the fields, leaves none over exactly when
they spell the record. -/
theorem readLeading_eq_ok_iff {fields : Fields αs} {parts : Grammar.Parts αs} (whole : String)
    {all items : List Value} {position : Nat} (h : fields.Agree (.array all) position parts)
    (hitems : all.drop position = items) (xs : Tuple αs) :
    fields.readLeading whole position items = .ok (xs, []) ↔ parts.InArray items xs := by
  induction fields generalizing items position with
  | nil =>
    cases parts
    rw [readLeading, Grammar.Parts.InArray]
    refine ⟨?_, ?_⟩
    · intro h
      cases h
      rfl
    · rintro rfl
      rfl
  | cons field fields ih =>
    cases parts with
    | cons part parts =>
    obtain ⟨-, hdefault, hread, hrest⟩ := h
    obtain ⟨x, xs⟩ := xs
    have hnext : all.drop (position + 1) = items.tail := by
      rw [← hitems, List.tail_drop]
    cases items with
    | nil =>
      rw [readLeading_nil_eq_ok_iff, Grammar.Parts.InArray, hdefault]
      exact and_congr_right' (ih hrest hnext xs)
    | cons item items =>
      have hitem : all[position]? = some item := by
        rw [← List.head?_drop, hitems]
        rfl
      rw [readLeading_cons_eq_ok_iff, Grammar.Parts.InArray, hread _ (.item hitem) x]
      exact and_congr_right' (ih hrest hnext xs)

theorem readItems_eq_ok_iff {fields : Fields αs} {parts : Grammar.Parts αs} (title : String)
    {items : List Value} (h : fields.Agree (.array items) 0 parts) (xs : Tuple αs) :
    fields.readItems title items = .ok xs ↔ parts.InArray items xs := by
  rw [← readLeading_eq_ok_iff (title ++ " with " ++ elements fields.count) h List.drop_zero,
    readItems, bind_eq_ok_iff]
  refine ⟨?_, ?_⟩
  · rintro ⟨⟨ys, left⟩, hread, hleft⟩
    cases left with
    | nil =>
      cases hleft
      exact hread
    | cons item left => cases hleft
  · intro hread
    exact ⟨_, hread, rfl⟩

end Fields

/-! ## Records and lists -/

/-- A record is read as it is spelled when its fields are. -/
theorem Schema.read_eq_ok_iff {s : Schema α} {parts : Grammar.Parts s.types} {v : Value}
    (hnames : s.fields.names.Nodup) (h : s.fields.Agree v 0 parts) (a : α) :
    s.read v = .ok a ↔ ∃ xs, Grammar.record parts v xs ∧ s.make xs = a := by
  cases v with
  | object members =>
    rw [read, map_eq_ok_iff]
    exact exists_congr fun xs => and_congr_left' (Fields.readMembers_eq_ok_iff hnames h xs)
  | array items =>
    rw [read, map_eq_ok_iff]
    exact exists_congr fun xs => and_congr_left' (Fields.readItems_eq_ok_iff s.title h xs)
  | null | boolean | number | string =>
    refine ⟨?_, ?_⟩
    · intro h
      cases h
    · rintro ⟨_, h, -⟩
      cases h

/-- A record is read as it is spelled when its fields are, and when it is made up of them and of
nothing else. -/
theorem Schema.read_eq_ok_iff_record {s : Schema α} {parts : Grammar.Parts s.types} {v : Value}
    (hnames : s.fields.names.Nodup) (h : s.fields.Agree v 0 parts) (split : α → Tuple s.types)
    (hmake : ∀ a, s.make (split a) = a) (hsplit : ∀ xs, split (s.make xs) = xs) (a : α) :
    s.read v = .ok a ↔ Grammar.record parts v (split a) := by
  rw [read_eq_ok_iff hnames h]
  refine ⟨?_, ?_⟩
  · rintro ⟨xs, hrecord, rfl⟩
    rw [hsplit]
    exact hrecord
  · intro hrecord
    exact ⟨split a, hrecord, hmake a⟩

theorem readEach_eq_ok_iff {read : Value → Result α} {spells : Grammar α} {items : List Value}
    (h : ∀ item ∈ items, ∀ x, read item = .ok x ↔ spells item x) (xs : List α) :
    readEach read items = .ok xs ↔ List.Forall₂ spells items xs := by
  induction items generalizing xs with
  | nil =>
    rw [List.forall₂_nil_left_iff]
    exact ⟨fun h => (Except.ok.inj h).symm, fun h => congrArg _ h.symm⟩
  | cons item items ih =>
    obtain ⟨hitem, hitems⟩ := List.forall_mem_cons.mp h
    rw [readEach, bind_eq_ok_iff, List.forall₂_cons_left_iff]
    refine ⟨?_, ?_⟩
    · rintro ⟨x, hx, hrest⟩
      obtain ⟨ys, hys, hcons⟩ := bind_eq_ok_iff.mp hrest
      exact ⟨x, ys, (hitem x).mp hx, (ih hitems ys).mp hys, (Except.ok.inj hcons).symm⟩
    · rintro ⟨x, ys, hx, hys, rfl⟩
      exact ⟨x, (hitem x).mpr hx, bind_eq_ok_iff.mpr ⟨ys, (ih hitems ys).mpr hys, rfl⟩⟩

/-- A list is read as it is spelled when its items are. -/
theorem readList_eq_ok_iff {read : Value → Result α} {spells : Grammar α} {v : Value}
    (h : ∀ items, v = .array items → ∀ item ∈ items, ∀ x, read item = .ok x ↔ spells item x)
    (xs : List α) : readList read v = .ok xs ↔ Grammar.list spells v xs := by
  cases v with
  | array items =>
    rw [readList, readEach_eq_ok_iff (h items rfl)]
    refine ⟨?_, ?_⟩
    · intro hxs
      exact ⟨items, rfl, hxs⟩
    · rintro ⟨_, heq, hxs⟩
      cases heq
      exact hxs
  | null | boolean | number | string | object =>
    refine ⟨?_, ?_⟩
    · intro h
      cases h
    · rintro ⟨_, heq, -⟩
      cases heq

end Registrar.Feed
