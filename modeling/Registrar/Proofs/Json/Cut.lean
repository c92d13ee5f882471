import Registrar.Proofs.Json.RoundTrip

/-!
# Texts that end inside a value

A text may be cut anywhere: inside a name, an escape, a numeral or a word. What the reader has
taken until then can always be continued, and at the end of the text only a numeral can be complete.
So the end never finds anything that is wrong, provided that the part of a numeral has a value where
the numeral has one (`Numeral.IsWhole`), and a reader that has begun a value does not stand before
one again (`Reader.Run.eq_start`).
-/

namespace Registrar.Json

open Registrar.Text (Bytes)

namespace Numeral

/-- A minus alone, or digits without a fraction or an exponent that 64 bits hold. -/
def IsWhole (n : Numeral) : Prop :=
  n.part = .sign ∨ (n.part = .zero ∨ n.part = .whole) ∧ (absorb 0 n.whole.reverse).2 = 0

/-- Where all digits are taken, so are those before the last ones. -/
theorem absorb_snd_of_append {n : Nat} {before after : List Nat}
    (h : (absorb n (before ++ after)).2 = 0) : (absorb n before).2 = 0 := by
  induction before generalizing n with
  | nil => rfl
  | cons d before ih =>
    rw [List.cons_append, absorb] at h
    rw [absorb]
    split_ifs at h ⊢
    exact ih h

/-- A numeral that becomes whole was whole before its last byte. -/
theorem IsWhole.of_extend {n n' : Numeral} {b : UInt8} (h : n.extend b = .more n')
    (hn : n'.IsWhole) : n.IsWhole := by
  rcases hpart : n.part with _ | _ | _ | _ | _ | _ | _ | _
  case sign => exact .inl hpart
  case whole =>
    cases hdigit : digit? b with
    | none =>
      -- a point or the letter of an exponent leaves a numeral that is not whole
      simp only [extend, hpart, hdigit] at h
      split_ifs at h <;> cases h <;> simp [IsWhole] at hn
    | some d =>
      simp only [extend, hpart, hdigit, Extension.more.injEq] at h
      subst h
      obtain hsign | ⟨-, hdigits⟩ := hn
      · cases hsign
      · rw [List.reverse_cons] at hdigits
        exact .inr ⟨.inr hpart, absorb_snd_of_append hdigits⟩
  all_goals
    exfalso
    cases hdigit : digit? b <;> simp only [extend, hpart, hdigit] at h
    all_goals
      try split_ifs at h
      all_goals cases h <;> simp [IsWhole] at hn

theorem isWhole_of_value? {n : Numeral} {m : Int} (h : n.value? = some (.integer m)) :
    n.IsWhole := by
  rw [value?] at h
  dsimp only at h
  split_ifs at h with hfloating
  · simp at h
  all_goals
    simp only [Bool.or_eq_true, Bool.and_eq_true, bne_iff_ne, not_or, not_and, not_not, ne_eq]
      at hfloating
    refine .inr ⟨?_, by simpa using hfloating.2⟩
    by_cases hzero : n.part = .zero
    · exact .inl hzero
    · exact .inr (hfloating.1 hzero)

/-- A whole numeral that may end has a value. -/
theorem IsWhole.exists_value? {n : Numeral} (h : n.IsWhole) (hcomplete : n.isComplete = true) :
    ∃ number, n.value? = some number := by
  obtain hsign | ⟨hpart, hdigits⟩ := h
  · simp [isComplete, hsign] at hcomplete
  · have hwhole : (n.part != .zero && n.part != .whole ||
        (absorb 0 n.whole.reverse).2 != 0) = false := by
      rcases hpart with hpart | hpart <;> simp [hpart, hdigits]
    rw [value?]
    dsimp only
    rw [hwhole]
    simp only [Bool.false_eq_true, if_false]
    split_ifs <;> exact ⟨_, rfl⟩

end Numeral

/-- What stands in a plain value is plain. -/
theorem Frame.Around.plain {stack : List Frame} {x v : Value} (h : Frame.Around stack x v)
    {depth : Nat} (hv : v.Plain depth) : ∃ inner, x.Plain inner := by
  induction stack generalizing x with
  | nil =>
    obtain rfl : x = v := h
    exact ⟨depth, hv⟩
  | cons frame stack ih =>
    cases frame with
    | item before =>
      obtain ⟨items, hitems, haround⟩ := h
      obtain ⟨inner, harray⟩ := ih haround
      cases harray with
      | array hall => exact ⟨_, hall x (hitems.subset (by simp))⟩
    | member before name =>
      obtain ⟨members, hmembers, haround⟩ := h
      obtain ⟨inner, hobject⟩ := ih haround
      cases hobject with
      | object hall => exact ⟨_, hall (name, x) (hmembers.subset (by simp))⟩

theorem Frame.Around.eq_integer {stack : List Frame} {number : Number} {v : Value}
    (h : Frame.Around stack (.number number) v) {depth : Nat} (hv : v.Plain depth) :
    ∃ n, number = .integer n := by
  obtain ⟨inner, hplain⟩ := h.plain hv
  cases hplain with
  | integer => exact ⟨_, rfl⟩

namespace Reader

variable {r r' : Reader} {b : UInt8} {v : Value} {depth : Nat} {bytes : Bytes}

/-- If a numeral is being read, it is whole. -/
def ReadsWhole (r : Reader) : Prop :=
  ∀ n, r.mode = .numeral n → n.IsWhole

theorem ReadsWhole.of_take? (h : r.take? b = some r') (hr : r'.ReadsWhole) (hwithin : r'.Within v)
    (hv : v.Plain depth) : r.ReadsWhole := by
  intro n hmode
  obtain ⟨stack, mode⟩ := r
  obtain rfl : mode = .numeral n := hmode
  obtain ⟨settled, hsettle, hconsume⟩ := Option.bind_eq_some_iff.mp h
  cases hextend : n.extend b with
  | more next =>
    -- the byte belongs to the numeral, which is whole behind it
    simp only [settle, hextend, Option.some.injEq] at hsettle
    subst hsettle
    simp only [consume, hextend, Option.some.injEq] at hconsume
    subst hconsume
    exact (hr next rfl).of_extend hextend
  | finished =>
    -- the numeral ends, and its number is one of the value
    simp only [settle, hextend] at hsettle
    obtain ⟨number, hnumber, rfl⟩ := Option.map_eq_some_iff.mp hsettle
    have haround := around_of_deliver (within_of_consume hconsume hwithin)
    obtain ⟨m, rfl⟩ := haround.eq_integer hv
    exact Numeral.isWhole_of_value? hnumber
  | refused =>
    simp only [settle, hextend, Option.some.injEq] at hsettle
    subst hsettle
    simp [consume, hextend] at hconsume

/-- On the way to a plain value all numerals are whole. -/
theorem readsWhole_of_readFrom (hv : v.Plain depth) (h : Form.any.readFrom r bytes = .ok v) :
    r.ReadsWhole := by
  induction bytes generalizing r with
  | nil =>
    intro n hmode
    obtain ⟨settled, value, hsettle, -, hdone, hvalue⟩ := Form.close_eq_ok_iff.mp h
    obtain rfl : value = v := Except.ok.inj hvalue
    obtain ⟨stack, mode⟩ := r
    obtain rfl : mode = .numeral n := hmode
    dsimp only [settleAtEnd] at hsettle
    split_ifs at hsettle with hcomplete
    · obtain ⟨number, hnumber, rfl⟩ := Option.map_eq_some_iff.mp hsettle
      have haround := around_of_deliver (Form.within_of_mode_eq_done hdone)
      obtain ⟨m, rfl⟩ := haround.eq_integer hv
      exact Numeral.isWhole_of_value? hnumber
    · cases hsettle
      cases hdone
  | cons b bytes ih =>
    obtain ⟨next, hadvance, hnext⟩ := Form.readFrom_cons_eq_ok_iff.mp h
    obtain ⟨settled, hsettle, -, hconsume, -⟩ := Form.advance_eq_ok_iff.mp hadvance
    have htake : r.take? b = some next := Option.bind_eq_some_iff.mpr ⟨settled, hsettle, hconsume⟩
    rcases hnext with ⟨value, hmode, hvalue, -⟩ | ⟨-, hrest⟩
    · obtain rfl : value = v := Except.ok.inj hvalue
      refine ReadsWhole.of_take? htake ?_ (Form.within_of_mode_eq_done hmode) hv
      intro n hn
      rw [hmode] at hn
      cases hn
    · exact ReadsWhole.of_take? htake (ih hrest) (Form.within_of_readFrom hrest) hv

/-- The end of the text ends a numeral, when there is one that may end. -/
theorem ReadsWhole.settleAtEnd (h : r.ReadsWhole) :
    ∃ settled, r.settleAtEnd = some settled ∧
      (settled = r ∨
        ∃ n number, r.mode = .numeral n ∧ settled = deliver (.number number) r.stack) := by
  obtain ⟨stack, mode⟩ := r
  cases mode with
  | numeral n =>
    by_cases hcomplete : n.isComplete = true
    · obtain ⟨number, hnumber⟩ := (h n rfl).exists_value? hcomplete
      refine ⟨deliver (.number number) stack, ?_, .inr ⟨n, number, rfl, rfl⟩⟩
      simp [Reader.settleAtEnd, hcomplete, hnumber]
    · exact ⟨_, if_neg hcomplete, .inl rfl⟩
  | _ => exact ⟨_, rfl, .inl rfl⟩

/-! ## The start -/

theorem deliver_ne_start (value : Value) (stack : List Frame) : deliver value stack ≠ start := by
  cases stack with
  | nil => nofun
  | cons frame stack => cases frame <;> nofun

theorem openValue_ne_start (stack : List Frame) : openValue stack b ≠ some start := by
  intro h
  rw [openValue] at h
  split_ifs at h
  all_goals try cases h
  obtain ⟨n, -, hn⟩ := Option.map_eq_some_iff.mp h
  cases hn

/-- A byte leads back to the start from nowhere but the start. -/
theorem eq_start_of_consume (h : r.consume b = some start) : r = start := by
  obtain ⟨stack, mode⟩ := r
  cases mode with
  | value =>
    dsimp only [consume] at h
    split_ifs at h
    · exact Option.some.inj h
    · exact absurd h (openValue_ne_start _)
  | arrayStart =>
    dsimp only [consume] at h
    split_ifs at h
    · cases h
    · exact absurd (Option.some.inj h) (deliver_ne_start _ _)
    · exact absurd h (openValue_ne_start _)
  | word rest value =>
    match rest with
    | [] => cases h
    | [last] =>
      dsimp only [consume] at h
      split_ifs at h
      exact absurd (Option.some.inj h) (deliver_ne_start _ _)
    | next :: second :: more =>
      dsimp only [consume] at h
      split_ifs at h
      cases h
  | text role spelling =>
    dsimp only [consume] at h
    split at h
    · cases h
    · cases role with
      | value => exact absurd (Option.some.inj h) (deliver_ne_start _ _)
      | name members => cases h
    · cases h
  | numeral n =>
    dsimp only [consume] at h
    split at h <;> cases h
  | _ =>
    dsimp only [consume] at h
    split_ifs at h
    all_goals first | exact absurd (Option.some.inj h) (deliver_ne_start _ _) | cases h

theorem eq_start_of_take? (h : r.take? b = some start) : r = start := by
  obtain ⟨settled, hsettle, hconsume⟩ := Option.bind_eq_some_iff.mp h
  obtain rfl := eq_start_of_consume hconsume
  obtain ⟨stack, mode⟩ := r
  cases mode with
  | numeral n =>
    dsimp only [settle] at hsettle
    split at hsettle
    · obtain ⟨number, -, hdeliver⟩ := Option.map_eq_some_iff.mp hsettle
      exact absurd hdeliver (deliver_ne_start _ _)
    · cases hsettle
  | _ => exact Option.some.inj hsettle

/-- A reader that has left the start does not come back. -/
theorem Run.eq_start (h : r.Run bytes start) : r = start := by
  induction bytes generalizing r with
  | nil => exact Option.some.inj h
  | cons b bytes ih =>
    obtain ⟨next, hnext, hrest⟩ := Option.bind_eq_some_iff.mp h
    obtain rfl := ih hrest
    exact eq_start_of_take? hnext

end Reader

/-! ## Reading on -/

section

variable {ε α : Type} {form : Form ε α} {r r' : Reader} {a : α} {bytes rest : Bytes} {v : Value}

theorem Value.ofBytes?_eq_some_iff : Value.ofBytes? bytes = some v ↔
    Form.any.readFrom Reader.start bytes = .ok v := by
  rw [Value.ofBytes?, Form.read]
  cases Form.any.readFrom Reader.start bytes <;> simp [Except.toOption]

/-- What is read behind a part of a text, when the value is not complete there. -/
theorem Form.readFrom_of_run (hrest : rest.all isBlankByte = false)
    (h : form.readFrom r (bytes ++ rest) = .ok a) (hrun : r.Run bytes r') :
    form.readFrom r' rest = .ok a := by
  induction bytes generalizing r with
  | nil =>
    obtain rfl : r = r' := Option.some.inj hrun
    exact h
  | cons b bytes ih =>
    obtain ⟨next, hnext, hmore⟩ := Option.bind_eq_some_iff.mp hrun
    obtain ⟨next', hadvance, hread⟩ := readFrom_cons_eq_ok_iff.mp h
    obtain rfl : next = next' := Option.some.inj (hnext.symm.trans (take?_of_advance hadvance))
    rcases hread with ⟨_, -, -, hblank⟩ | ⟨-, hread⟩
    · simp [List.all_append, hrest] at hblank
    · exact ih hread hmore

end

end Registrar.Json
