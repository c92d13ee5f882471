import Registrar.Proofs.Json.Integers
import Registrar.Proofs.Json.RoundTrip

/-!
# Texts with gaps

A text leaves open two places where values stand. Filled with integer literals it is read as the
whole that has their numbers in these places, if they have numbers. Where a literal has none, which
takes more digits than any floating point number, the reader does not get past it. Main statements:
`GappedText.readFrom_fill` and `GappedText.stuck_fill`.
-/

namespace Registrar.Json

open Registrar.Text (Bytes)

namespace Reader

variable {r r' : Reader} {b : UInt8} {bytes more : Bytes} {outer stack : List Frame} {v : Value}
  {number : Number} {l : IntegerLiteral}

/-! ## Behind a value -/

theorem take?_deliver (v : Value) (stack : List Frame) (b : UInt8) :
    (deliver v stack).take? b = (deliver v stack).consume b := by
  match stack with
  | [] => rfl
  | .item _ :: _ => rfl
  | .member _ _ :: _ => rfl

/-- No value is behind another one without a mark between them. -/
theorem not_atValue_deliver (v : Value) (outer stack : List Frame) :
    ¬ (deliver v outer).AtValue stack := by
  intro h
  have hquote := h 0x22 rfl (by decide)
  rw [take?_deliver] at hquote
  match outer with
  | [] => cases hquote
  | .item _ :: _ => cases hquote
  | .member _ _ :: _ => cases hquote

/-- What stands behind a value continues no integer. -/
theorem ends_integer_of_take?_deliver (h : (deliver v stack).take? b = some r) :
    digit? b = none ∧ b ≠ 0x2e ∧ Numeral.isMark b = false := by
  have hb : isBlankByte b = true ∨ b = 0x2c ∨ b = 0x5d ∨ b = 0x7d := by
    rw [take?_deliver] at h
    match stack with
    | [] =>
      simp only [deliver, consume] at h
      split_ifs at h with hblank
      exact .inl hblank
    | .item _ :: _ =>
      simp only [deliver, consume] at h
      split_ifs at h with hblank hcomma hbracket
      · exact .inl hblank
      · exact .inr (.inl hcomma)
      · exact .inr (.inr (.inl hbracket))
    | .member _ _ :: _ =>
      simp only [deliver, consume] at h
      split_ifs at h with hblank hcomma hbracket
      · exact .inl hblank
      · exact .inr (.inl hcomma)
      · exact .inr (.inr (.inr hbracket))
  rcases hb with hblank | rfl | rfl | rfl
  · simp only [isBlankByte, Bool.or_eq_true, decide_eq_true_eq] at hblank
    rcases hblank with ((rfl | rfl) | rfl) | rfl <;> decide
  · decide
  · decide
  · decide

/-! ## Behind a literal -/

/-- A byte that may stand behind a value ends a literal, and is taken behind its number. -/
theorem take?_numeral (h : (deliver v stack).take? b = some r) (l : IntegerLiteral) :
    take? ⟨stack, .numeral l.numeral⟩ b =
      l.numeral.value?.bind fun number => (deliver (.number number) stack).take? b := by
  obtain ⟨hdigit, hpoint, hmark⟩ := ends_integer_of_take?_deliver h
  have hextend : l.numeral.extend b = .finished :=
    Numeral.extend_ofNat _ _ hdigit hpoint hmark
  rw [take?, settle]
  simp only [hextend]
  cases l.numeral.value? with
  | none => rfl
  | some number => exact (take?_deliver (.number number) stack b).symm

/-- What is taken behind the number of a literal is taken behind the literal. -/
theorem run_numeral_of_deliver (hvalue : l.numeral.value? = some number) (hne : bytes ≠ [])
    (h : (deliver (.number number) stack).Run bytes r') :
    Run ⟨stack, .numeral l.numeral⟩ bytes r' := by
  obtain ⟨b, rest, rfl⟩ := List.exists_cons_of_ne_nil hne
  obtain ⟨next, hnext, hrest⟩ := Option.bind_eq_some_iff.mp h
  refine Run.cons ?_ hrest
  rw [take?_numeral hnext, hvalue]
  exact hnext

/-! ## Gaps -/

/-- The reader takes the bytes and then stands at a value, inside the containers. -/
def Reaches (r : Reader) (bytes : Bytes) (stack : List Frame) : Prop :=
  ∃ r', r.Run bytes r' ∧ r'.AtValue stack

/-- Inside a value the reader comes to a byte that it does not take. -/
def Stuck (r : Reader) (bytes : Bytes) : Prop :=
  ∃ front b back r', bytes = front ++ b :: back ∧ r.Run front r' ∧ (∀ v, r'.mode ≠ .done v) ∧
    r'.take? b = none

theorem Reaches.ne_nil (h : (deliver v outer).Reaches bytes stack) : bytes ≠ [] := by
  rintro rfl
  obtain ⟨r', hrun, hat⟩ := h
  obtain rfl : deliver v outer = r' := Option.some.inj hrun
  exact not_atValue_deliver v outer stack hat

/-- A literal in a gap is read up to its last digit. -/
theorem Reaches.run_literal (h : r.Reaches bytes stack) (l : IntegerLiteral) :
    r.Run (bytes ++ l.bytes) ⟨stack, .numeral l.numeral⟩ := by
  obtain ⟨r', hrun, hat⟩ := h
  exact hrun.append (hat.run_numeral l.ofBytes?_bytes)

/-- What is reached behind the number of a literal is reached behind the literal. -/
theorem Reaches.past_literal (h : r.Reaches bytes outer)
    (hvalue : l.numeral.value? = some number)
    (hmore : (deliver (.number number) outer).Reaches more stack) :
    r.Reaches (bytes ++ l.bytes ++ more) stack := by
  have hne := hmore.ne_nil
  obtain ⟨r', hrun, hat⟩ := hmore
  exact ⟨r', (h.run_literal l).append (run_numeral_of_deliver hvalue hne hrun), hat⟩

/-- A literal without a number is where the reader stops. -/
theorem stuck_of_value?_eq_none (h : r.Run bytes ⟨stack, .numeral l.numeral⟩)
    (hvalue : l.numeral.value? = none) (hne : more ≠ [])
    (hmore : (deliver v stack).Run more r') : r.Stuck (bytes ++ more) := by
  obtain ⟨b, rest, rfl⟩ := List.exists_cons_of_ne_nil hne
  obtain ⟨next, hnext, -⟩ := Option.bind_eq_some_iff.mp hmore
  refine ⟨bytes, b, rest, _, rfl, h, nofun, ?_⟩
  rw [take?_numeral hnext, hvalue]
  rfl

theorem Stuck.append (h : r.Stuck bytes) (more : Bytes) : r.Stuck (bytes ++ more) := by
  obtain ⟨front, b, back, r', rfl, hrun, hmode, hnone⟩ := h
  exact ⟨front, b, back ++ more, r', by simp, hrun, hmode, hnone⟩

end Reader

/-- A text that leaves open two places. -/
structure GappedText where
  head : Bytes
  middle : Bytes
  tail : Bytes

namespace GappedText

variable {t : GappedText} {whole : Value → Value → Value} {first second : IntegerLiteral}

/-- The text with something in its gaps. -/
def fill (t : GappedText) (first second : Bytes) : Bytes :=
  t.head ++ first ++ t.middle ++ second ++ t.tail

/-- Values may stand in the gaps, and whatever values do, the text is read as the whole that has
them. -/
def ReadsAs (t : GappedText) (whole : Value → Value → Value) : Prop :=
  ∃ outer, Reader.start.Reaches t.head outer ∧
    ∀ x, ∃ inner, (Reader.deliver x outer).Reaches t.middle inner ∧
      ∀ y, (Reader.deliver y inner).Run t.tail (Reader.deliver (whole x y) [])

/-- Something stands behind the second gap, since the whole is more than the value in it. -/
theorem ReadsAs.tail_ne_nil (h : t.ReadsAs whole) (hwhole : whole .null .null ≠ .null) :
    t.tail ≠ [] := by
  intro hnil
  obtain ⟨outer, -, hmiddle⟩ := h
  obtain ⟨inner, -, htail⟩ := hmiddle .null
  have hend : Reader.deliver .null inner = Reader.deliver (whole .null .null) [] := by
    have hrun := htail .null
    rw [hnil] at hrun
    exact Option.some.inj hrun
  match inner with
  | [] => exact hwhole (Mode.done.inj (congrArg Reader.mode hend)).symm
  | .item _ :: _ => cases congrArg Reader.mode hend
  | .member _ _ :: _ => cases congrArg Reader.mode hend

/-- Literals that have numbers stand for these in the whole. -/
theorem readFrom_fill (h : t.ReadsAs whole) (hwhole : whole .null .null ≠ .null) {a b : Number}
    (hfirst : first.numeral.value? = some a) (hsecond : second.numeral.value? = some b) :
    Form.any.readFrom Reader.start (t.fill first.bytes second.bytes) =
      .ok (whole (.number a) (.number b)) := by
  have htailne := h.tail_ne_nil hwhole
  obtain ⟨outer, hhead, hmiddle⟩ := h
  obtain ⟨inner, hinner, htail⟩ := hmiddle (.number a)
  have hbefore := (hhead.past_literal hfirst hinner).run_literal second
  have hbehind := Reader.run_numeral_of_deliver hsecond htailne (htail (.number b))
  exact Form.readFrom_any_of_run nofun (hbefore.append hbehind) rfl

/-- A literal without a number is where the reader stops. -/
theorem stuck_fill (h : t.ReadsAs whole) (hwhole : whole .null .null ≠ .null)
    (hnone : first.numeral.value? = none ∨ second.numeral.value? = none) :
    Reader.start.Stuck (t.fill first.bytes second.bytes) := by
  have htailne := h.tail_ne_nil hwhole
  obtain ⟨outer, hhead, hmiddle⟩ := h
  cases hfirst : first.numeral.value? with
  | none =>
    obtain ⟨inner, hinner, -⟩ := hmiddle .null
    have hmiddlene := hinner.ne_nil
    obtain ⟨r, hrun, -⟩ := hinner
    have hstuck := Reader.stuck_of_value?_eq_none (hhead.run_literal first) hfirst hmiddlene hrun
    exact (hstuck.append second.bytes).append t.tail
  | some a =>
    -- the first literal is passed, so it is the second one that has no number
    have hsecond : second.numeral.value? = none := hnone.resolve_left (by simp [hfirst])
    obtain ⟨inner, hinner, htail⟩ := hmiddle (.number a)
    have hbefore := (hhead.past_literal hfirst hinner).run_literal second
    exact Reader.stuck_of_value?_eq_none hbefore hsecond htailne (htail .null)

end GappedText

end Registrar.Json
