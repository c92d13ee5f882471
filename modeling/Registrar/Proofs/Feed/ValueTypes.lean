import Registrar.Proofs.Feed.EarlyTags
import Registrar.Proofs.Feed.Events
import Registrar.Proofs.Feed.Refusals
import Registrar.Proofs.Json.Cut

/-!
# Value types and their tags

A text of its own is read as a value type whose tag is a name. Inside an event the tag may be a
number as well, which is the position of the form. The two readings agree, down to what is refused,
exactly where no number from zero on is the tag. Main statements: `ValueType.read_form_eq` and
`ValueType.ofValue_eq_ofNamed_iff`.
-/

namespace Registrar

open Feed
open Json (Value Reader Form Fault)
open Text (Bytes)

variable {v w : Value} {why : Mismatch} {bytes : Bytes}

/-! ## Tags that are numbers -/

/-- Reads a value type whose tag is a name. -/
def ValueType.ofNamed (v : Value) : Result ValueType :=
  ValueType.tag.split ValueType.tag.readLabel v >>= fun (form, rest) => form.readRest rest

/-- A number from zero on stands first in the place of the tag. -/
def ValueType.Numbered (v : Value) : Prop :=
  ∃ (n : Nat) (more : List Value),
    ValueType.tag.carried v = .number (.integer (.ofNat n)) :: more

theorem Feed.Tag.readLabelOrPosition_of_not_position {α : Type} {tag : Tag α}
    (h : ∀ n : Nat, w ≠ .number (.integer (.ofNat n))) :
    tag.readLabelOrPosition w = tag.readLabel w := by
  cases w with
  | number number =>
    cases number with
    | floating => rfl
    | integer m =>
      cases m with
      | ofNat n => exact absurd rfl (h n)
      | negSucc n => rfl
  | null | boolean | string | array | object => rfl

theorem Feed.Tag.split_congr {α : Type} {tag : Tag α} {read read' : Value → Result α}
    (h : ∀ w more, tag.carried v = w :: more → read w = read' w) :
    tag.split read v = tag.split read' v := by
  have hpick : tag.pick read (tag.carried v) = tag.pick read' (tag.carried v) := by
    cases hcarried : tag.carried v with
    | nil => rfl
    | cons w more =>
      have hw := h w more hcarried
      cases more with
      | nil => exact hw
      | cons second more => rw [Tag.pick, Tag.pick, hw]
  cases v with
  | object members =>
    rw [Tag.split_eq (.inl ⟨members, rfl⟩), Tag.split_eq (.inl ⟨members, rfl⟩), hpick]
  | array items => rw [Tag.split_eq (.inr ⟨items, rfl⟩), Tag.split_eq (.inr ⟨items, rfl⟩), hpick]
  | null | boolean | number | string => rfl

theorem ValueType.ofValue_eq_ofNamed (h : ¬ Numbered v) : ofValue v = ofNamed v := by
  have hsplit : ValueType.tag.split ValueType.tag.readLabelOrPosition v =
      ValueType.tag.split ValueType.tag.readLabel v := by
    refine Tag.split_congr fun w more hcarried => ?_
    refine Tag.readLabelOrPosition_of_not_position ?_
    rintro n rfl
    exact h ⟨n, more, hcarried⟩
  rw [ofNamed, ← hsplit]
  rfl

/-- Where tags are names a number is refused as a value of another type. -/
theorem ValueType.ofNamed_of_numbered (h : Numbered v) :
    ∃ n : Nat, ofNamed v = .error (.ofValue (.number (.integer n)) tagExpectation) := by
  obtain ⟨n, more, hcarried⟩ := h
  have hsplit : ValueType.tag.split ValueType.tag.readLabel v =
      .error (.ofValue (.number (.integer n)) tagExpectation) :=
    Tag.split_of_carried_cons hcarried rfl
  refine ⟨n, ?_⟩
  rw [ofNamed, hsplit]
  rfl

/-- Something else is wrong than that a value stands in the place of a tag. -/
def Feed.Mismatch.NotOfTag : Mismatch → Prop
  | .wrongType _ expected => expected ≠ tagExpectation
  | _ => True

theorem Feed.Mismatch.notOfTag_ofValue {expected : String} (h : expected ≠ tagExpectation) :
    (ofValue w expected).NotOfTag :=
  h

theorem Feed.notOfTag_of_readInt64 (h : readInt64 w = .error why) : why.NotOfTag := by
  have hother : (Mismatch.ofValue w "i64").NotOfTag := Mismatch.notOfTag_ofValue (by decide)
  cases w with
  | number number =>
    cases number with
    | integer m =>
      rw [readInt64] at h
      split_ifs at h
      cases h
      trivial
    | floating => exact Except.error.inj h ▸ hother
  | null | boolean | string | array | object => exact Except.error.inj h ▸ hother

theorem Feed.notOfTag_of_readString (h : readString w = .error why) : why.NotOfTag := by
  have hother : (Mismatch.ofValue w "a string").NotOfTag := Mismatch.notOfTag_ofValue (by decide)
  cases w with
  | string => cases h
  | null | boolean | number | array | object => exact Except.error.inj h ▸ hother

theorem Feed.notOfTag_of_readEach {α : Type} {read : Value → Result α} {items : List Value}
    (hread : ∀ {w why}, read w = .error why → why.NotOfTag)
    (h : readEach read items = .error why) : why.NotOfTag := by
  induction items with
  | nil => cases h
  | cons item items ih =>
    rw [readEach] at h
    rcases bind_eq_error_iff.mp h with h | ⟨_, -, h⟩
    · exact hread h
    · rcases bind_eq_error_iff.mp h with h | ⟨_, -, h⟩
      · exact ih h
      · cases h

theorem Feed.notOfTag_of_readList {α : Type} {read : Value → Result α}
    (hread : ∀ {w why}, read w = .error why → why.NotOfTag) (h : readList read w = .error why) :
    why.NotOfTag := by
  have hother : (Mismatch.ofValue w "a sequence").NotOfTag :=
    Mismatch.notOfTag_ofValue (by decide)
  cases w with
  | array items => exact notOfTag_of_readEach hread h
  | null | boolean | number | string | object => exact Except.error.inj h ▸ hother

/-- What stands beside a tag is not refused for the tag. -/
theorem ValueForm.notOfTag_of_readRest {form : ValueForm} {rest : Value}
    (h : form.readRest rest = .error why) : why.NotOfTag := by
  have hfield : ∀ {α : Type} {read : Value → Result α} name position,
      (∀ {w why}, read w = .error why → why.NotOfTag) →
        Field.Blames Mismatch.NotOfTag rest position ⟨name, read, none⟩ :=
    fun _ _ hread => ⟨fun _ _ _ => hread, fun _ => trivial, fun _ _ => ⟨trivial, fun _ => trivial⟩⟩
  cases form with
  | range =>
    refine rangeSchema.property_of_read_eq_error (by decide) ⟨?_, fun _ _ _ _ => trivial, ?_⟩ h
    · exact fun _ _ => Mismatch.notOfTag_ofValue (by decide)
    · exact ⟨hfield "min" 0 notOfTag_of_readInt64, hfield "max" 1 notOfTag_of_readInt64, trivial⟩
  | enum =>
    refine enumSchema.property_of_read_eq_error (by decide) ⟨?_, fun _ _ _ _ => trivial, ?_⟩ h
    · exact fun _ _ => Mismatch.notOfTag_ofValue (by decide)
    · exact ⟨hfield "values" 0 (notOfTag_of_readList notOfTag_of_readString), trivial⟩
  | text | float | bool | complex =>
    cases rest with
    | array items =>
      cases items with
      | nil => cases h
      | cons item items =>
        cases h
        trivial
    | null | boolean | number | string | object => cases h

/-- Where tags may be positions, a number from zero on is not refused for its type. -/
theorem ValueType.notOfTag_of_numbered (hv : Numbered v) (h : ofValue v = .error why) :
    why.NotOfTag := by
  obtain ⟨n, more, hcarried⟩ := hv
  rw [ofValue, Tag.split_eq (Tag.container_of_carried hcarried), hcarried] at h
  have hlabel : ∀ {other}, ValueType.tag.readLabelOrPosition (.number (.integer (.ofNat n))) =
      .error other → other.NotOfTag := by
    intro other hother
    rw [Tag.readLabelOrPosition] at hother
    split at hother
    · cases hother
    · cases hother
      trivial
  rcases bind_eq_error_iff.mp h with h | ⟨⟨form, rest⟩, -, h⟩
  · have hpick := map_eq_error_iff.mp h
    cases more with
    | nil => exact hlabel hpick
    | cons second more =>
      rcases bind_eq_error_iff.mp hpick with hfirst | ⟨_, -, htwice⟩
      · exact hlabel hfirst
      · cases htwice
        trivial
  · exact form.notOfTag_of_readRest h

/-- The two readings differ exactly where a number from zero on is the tag. -/
theorem ValueType.ofValue_eq_ofNamed_iff : ofValue v = ofNamed v ↔ ¬ Numbered v := by
  refine ⟨fun heq hv => ?_, ofValue_eq_ofNamed⟩
  obtain ⟨n, hn⟩ := ofNamed_of_numbered hv
  exact notOfTag_of_numbered hv (heq.trans hn) rfl

/-! ## Texts -/

theorem Feed.Tag.sound_start {α : Type} (tag : Tag α) : tag.Sound Reader.start :=
  .inl rfl

/-- The text of an event means what its value means, in its faults too. -/
theorem Event.read_form_eq (h : Value.ofBytes? bytes = some v) :
    Event.form.read bytes = (Event.ofValue v).mapError .mismatch :=
  Tag.readFrom_eq rfl (fun _ _ => rfl) Event.tag.sound_start (Value.ofBytes?_eq_some_iff.mp h)

/-- The text of a value type means what its value means when its tag is a name. -/
theorem ValueType.read_form_eq (h : Value.ofBytes? bytes = some v) :
    ValueType.form.read bytes = (ofNamed v).mapError .mismatch := by
  refine Tag.readFrom_eq rfl (fun u hu => ?_) ValueType.tag.sound_start
    (Value.ofBytes?_eq_some_iff.mp h)
  refine ofValue_eq_ofNamed ?_
  rintro ⟨n, more, hcarried⟩
  rcases hu with hu | ⟨w, form, hw, hform⟩
  · rw [hu] at hcarried
    cases hcarried
  · rw [hw] at hcarried
    cases hcarried
    cases hform

end Registrar
