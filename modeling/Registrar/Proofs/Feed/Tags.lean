import Registrar.Feed.Tag
import Registrar.Proofs.Feed.Records

/-!
# Names and tags are read as the grammar spells them

An alternative is found by its name when all alternatives are listed and no two share a name. The
tag of an object is found wherever it stands: `Tag.splitMembers` passes through the members with the
tag seen so far. Main statements: `readVariant_eq_ok_iff` and `Tag.split_eq_ok_iff`.
-/

namespace Registrar.Feed

open Registrar.Json (Value)

variable {α : Type}

/-! ## Choices -/

theorem findVariant_eq_ok_iff {name : α → String} {all : List α} (hall : ∀ a, a ∈ all)
    (hname : Function.Injective name) (text : String) (a : α) :
    findVariant name all text = .ok a ↔ text = name a := by
  rw [findVariant]
  cases hfind : all.find? fun b => name b = text with
  | none =>
    refine ⟨?_, ?_⟩
    · intro h
      cases h
    · rintro rfl
      exact absurd (decide_eq_true rfl) (List.find?_eq_none.mp hfind a (hall a))
  | some b =>
    have hb : name b = text := by simpa using List.find?_some hfind
    refine ⟨?_, ?_⟩
    · intro h
      cases h
      exact hb.symm
    · intro h
      exact congrArg _ (hname (hb.trans h))

/-- A choice is read as it is spelled. -/
theorem readVariant_eq_ok_iff {name : α → String} {all : List α} (hall : ∀ a, a ∈ all)
    (hname : Function.Injective name) (v : Value) (a : α) :
    readVariant name all v = .ok a ↔ Grammar.choice name v a := by
  have hfind := findVariant_eq_ok_iff hall hname
  cases v with
  | string text =>
    rw [readVariant, hfind, Grammar.choice]
    simp
  | object members =>
    match members with
    | [] => simp [readVariant, Grammar.choice]
    | _ :: _ :: _ => simp [readVariant, Grammar.choice]
    | [(text, held)] =>
      rw [readVariant, bind_eq_ok_iff]
      simp only [hfind, Grammar.choice, Value.object.injEq, List.cons.injEq, Prod.mk.injEq,
        and_true, reduceCtorEq, false_or]
      -- what is held decides, and only `null` and an object without members are nothing
      cases held with
      | null => simp [pure, Except.pure, eq_comm]
      | object inner => cases inner <;> simp [pure, Except.pure, throw, throwThe,
          MonadExceptOf.throw, eq_comm]
      | boolean | number | string | array => simp [throw, throwThe, MonadExceptOf.throw]
  | null | boolean | number | array => simp [readVariant, Grammar.choice]

/-! ## Tags -/

theorem mem_of_mem_others {name : String} {members : List (String × Value)}
    {member : String × Value} (h : member ∈ others name members) : member ∈ members :=
  List.mem_of_mem_filter h

theorem given_cons_self (name : String) (v : Value) (members : List (String × Value)) :
    given name ((name, v) :: members) = v :: given name members := by
  simp [given]

theorem given_cons_of_ne {name other : String} (h : other ≠ name) (v : Value)
    (members : List (String × Value)) :
    given name ((other, v) :: members) = given name members := by
  simp [given, h]

theorem others_cons_self (name : String) (v : Value) (members : List (String × Value)) :
    others name ((name, v) :: members) = others name members := by
  simp [others]

theorem others_cons_of_ne {name other : String} (h : other ≠ name) (v : Value)
    (members : List (String × Value)) :
    others name ((other, v) :: members) = (other, v) :: others name members := by
  simp [others, h]

namespace Tag

variable {tag : Tag α} {read : Value → Result α}

theorem splitMembers_cons_of_ne {name : String} (h : name ≠ tag.name) (found : Option α)
    (v : Value) (members : List (String × Value)) :
    tag.splitMembers read found ((name, v) :: members) =
      (tag.splitMembers read found members >>= fun (a, rest) => .ok (a, (name, v) :: rest)) :=
  if_neg h

theorem splitMembers_cons_self (v : Value) (members : List (String × Value)) :
    tag.splitMembers read none ((tag.name, v) :: members) =
      (read v >>= fun a => tag.splitMembers read (some a) members) :=
  if_pos rfl

theorem splitMembers_cons_self_of_some (a : α) (v : Value) (members : List (String × Value)) :
    tag.splitMembers read (some a) ((tag.name, v) :: members) =
      .error (.duplicateField tag.name) :=
  if_pos rfl

/-- A member that is not the tag stays with the rest. -/
theorem splitMembers_cons_eq_ok_iff {name : String} (h : name ≠ tag.name) {found : Option α}
    {v : Value} {members rest : List (String × Value)} {a : α} :
    tag.splitMembers read found ((name, v) :: members) = .ok (a, rest) ↔
      ∃ rest', tag.splitMembers read found members = .ok (a, rest') ∧
        rest = (name, v) :: rest' := by
  rw [splitMembers_cons_of_ne h, bind_eq_ok_iff]
  refine ⟨?_, ?_⟩
  · rintro ⟨⟨b, rest'⟩, hsplit, hpair⟩
    cases hpair
    exact ⟨rest', hsplit, rfl⟩
  · rintro ⟨rest', hsplit, rfl⟩
    exact ⟨(a, rest'), hsplit, rfl⟩

/-- Behind the tag no second one may come. -/
theorem splitMembers_some_eq_ok_iff {members rest : List (String × Value)} {a b : α} :
    tag.splitMembers read (some a) members = .ok (b, rest) ↔
      given tag.name members = [] ∧ a = b ∧ rest = others tag.name members := by
  induction members generalizing rest with
  | nil =>
    refine ⟨?_, ?_⟩
    · intro h
      cases h
      exact ⟨rfl, rfl, rfl⟩
    · rintro ⟨-, rfl, rfl⟩
      rfl
  | cons member members ih =>
    obtain ⟨name, v⟩ := member
    by_cases hname : name = tag.name
    · subst hname
      rw [splitMembers_cons_self_of_some, given_cons_self]
      refine ⟨?_, ?_⟩
      · intro h
        cases h
      · rintro ⟨h, -⟩
        cases h
    · simp only [splitMembers_cons_eq_ok_iff hname, given_cons_of_ne hname,
        others_cons_of_ne hname, ih]
      refine ⟨?_, ?_⟩
      · rintro ⟨rest', ⟨hgiven, rfl, rfl⟩, rfl⟩
        exact ⟨hgiven, rfl, rfl⟩
      · rintro ⟨hgiven, rfl, rfl⟩
        exact ⟨_, ⟨hgiven, rfl, rfl⟩, rfl⟩

/-- The tag is the only value of its name, wherever it stands. -/
theorem splitMembers_eq_ok_iff {members rest : List (String × Value)} {a : α} :
    tag.splitMembers read none members = .ok (a, rest) ↔
      ∃ v, given tag.name members = [v] ∧ read v = .ok a ∧ rest = others tag.name members := by
  induction members generalizing rest with
  | nil =>
    refine ⟨?_, ?_⟩
    · intro h
      cases h
    · rintro ⟨_, h, -⟩
      cases h
  | cons member members ih =>
    obtain ⟨name, v⟩ := member
    by_cases hname : name = tag.name
    · -- the tag is found, and none of the members behind it may be another
      subst hname
      rw [splitMembers_cons_self, bind_eq_ok_iff, given_cons_self, others_cons_self]
      simp only [splitMembers_some_eq_ok_iff]
      refine ⟨?_, ?_⟩
      · rintro ⟨_, hread, hgiven, rfl, hrest⟩
        exact ⟨v, by rw [hgiven], hread, hrest⟩
      · rintro ⟨w, hgiven, hread, hrest⟩
        obtain ⟨rfl, hnone⟩ := List.cons.inj hgiven
        exact ⟨a, hread, hnone, rfl, hrest⟩
    · simp only [splitMembers_cons_eq_ok_iff hname, given_cons_of_ne hname,
        others_cons_of_ne hname, ih]
      refine ⟨?_, ?_⟩
      · rintro ⟨rest', ⟨w, hgiven, hread, rfl⟩, rfl⟩
        exact ⟨w, hgiven, hread, rfl⟩
      · rintro ⟨w, hgiven, hread, rfl⟩
        exact ⟨_, ⟨w, hgiven, hread, rfl⟩, rfl⟩

/-- A tagged value is split as it is spelled, when the values in the place of its tag are read as
labels. -/
theorem split_eq_ok_iff {v rest : Value} {a : α}
    (hread : ∀ w, Holds tag.name 0 v w → (read w = .ok a ↔ w = .string (tag.label a))) :
    tag.split read v = .ok (a, rest) ↔ Grammar.Tagged tag.name (tag.label a) v rest := by
  cases v with
  | object members =>
    rw [split, bind_eq_ok_iff]
    refine ⟨?_, ?_⟩
    · rintro ⟨⟨b, left⟩, hsplit, hpair⟩
      cases hpair
      obtain ⟨w, hgiven, hw, rfl⟩ := splitMembers_eq_ok_iff.mp hsplit
      obtain rfl := (hread w (.member (mem_of_given_eq_singleton hgiven))).mp hw
      exact .object hgiven
    · rintro ⟨hgiven⟩
      have htag := (hread _ (.member (mem_of_given_eq_singleton hgiven))).mpr rfl
      exact ⟨(a, _), splitMembers_eq_ok_iff.mpr ⟨_, hgiven, htag, rfl⟩, rfl⟩
  | array items =>
    cases items with
    | nil =>
      refine ⟨?_, ?_⟩
      · intro h
        cases h
      · intro h
        cases h
    | cons first items =>
      rw [split, bind_eq_ok_iff]
      refine ⟨?_, ?_⟩
      · rintro ⟨b, hfirst, hpair⟩
        cases hpair
        obtain rfl := (hread first (.item rfl)).mp hfirst
        exact .array
      · rintro ⟨⟩
        exact ⟨a, (hread _ (.item rfl)).mpr rfl, rfl⟩
  | null | boolean | number | string =>
    refine ⟨?_, ?_⟩
    · intro h
      cases h
    · intro h
      cases h

theorem readLabel_eq_ok_iff (hall : ∀ a, a ∈ tag.all) (hlabel : Function.Injective tag.label)
    (v : Value) (a : α) : tag.readLabel v = .ok a ↔ v = .string (tag.label a) := by
  cases v with
  | string text =>
    rw [readLabel, findVariant_eq_ok_iff hall hlabel]
    exact ⟨congrArg _, Value.string.inj⟩
  | null | boolean | number | array | object =>
    refine ⟨?_, ?_⟩
    · intro h
      cases h
    · intro h
      cases h

/-- Only a number is read as a position. -/
theorem readLabelOrPosition_eq_readLabel {v : Value} (h : ∀ n, v ≠ .number n) :
    tag.readLabelOrPosition v = tag.readLabel v := by
  cases v with
  | number n => exact absurd rfl (h n)
  | null | boolean | string | array | object => rfl

end Tag

/-! ## What a tagged value holds -/

namespace Grammar.Tagged

variable {name label : String} {v rest : Value}

theorem holds_tag (h : Tagged name label v rest) : Holds name 0 v (.string label) := by
  cases h with
  | object hgiven => exact .member (mem_of_given_eq_singleton hgiven)
  | array => exact .item rfl

/-- What stands beside the tag is held by the whole, one position later. -/
theorem holds {other : String} {position : Nat} {w : Value} (h : Tagged name label v rest)
    (hw : Holds other position rest w) : Holds other (position + 1) v w := by
  cases h with
  | object =>
    cases hw with
    | member hmem => exact .member (mem_of_mem_others hmem)
  | array =>
    cases hw with
    | item hitem => exact .item hitem

/-- What stands beside the tag is an object or an array. -/
theorem rest_cases (h : Tagged name label v rest) :
    (∃ members, rest = .object members) ∨ ∃ items, rest = .array items := by
  cases h with
  | object => exact .inl ⟨_, rfl⟩
  | array => exact .inr ⟨_, rfl⟩

end Grammar.Tagged

end Registrar.Feed
