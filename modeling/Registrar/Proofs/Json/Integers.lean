import Registrar.Proofs.Json.Numeral

/-!
# Integer literals

An integer literal is a minus or none and digits, which no zero leads, and nothing bounds their
number. It is read as the numeral of what it denotes, all digits kept. The number of this numeral is
an integer exactly when 64 bits hold the integer, with a sign or without, and then it is the integer
that the literal denotes: no literal is rounded or reduced into one. Main statement:
`IntegerLiteral.value?_eq_integer_iff`.
-/

namespace Registrar.Json

open Registrar.Text (Bytes)

namespace Numeral

/-- Digits whose number 64 bits do not hold are not all taken. -/
theorem absorb_snd_ne_zero {digits : List Nat} {n : Nat} (hn : n < unsignedEnd)
    (h : unsignedEnd ≤ digits.foldl (fun n d => n * 10 + d) n) : (absorb n digits).2 ≠ 0 := by
  induction digits generalizing n with
  | nil => exact absurd hn (Nat.not_lt.mpr h)
  | cons d digits ih =>
    rw [absorb]
    split_ifs with hnext
    · exact ih hnext h
    · exact Nat.succ_ne_zero _

/-- A number that 64 bits do not hold is floating point, or beyond that too. -/
theorem value?_ofNat_of_le (negative : Bool) {n : Nat} (h : unsignedEnd ≤ n) :
    (ofNat negative n).value? = (ofNat negative n).floating?.map .floating := by
  have hne : n ≠ 0 := by
    rintro rfl
    cases h
  have hwhole : (ofNat negative n).whole = Nat.digits 10 n := by rw [ofNat, if_neg hne]
  have hdropped : (absorb 0 (ofNat negative n).whole.reverse).2 ≠ 0 := by
    rw [hwhole]
    exact absorb_snd_ne_zero (by decide) ((foldl_digits n).symm ▸ h)
  rw [value?]
  dsimp only
  rw [if_pos]
  simp [hdropped]

end Numeral

/-! ## Literals -/

/-- An integer as JSON spells it. -/
structure IntegerLiteral where
  /-- whether a minus stands in front -/
  negative : Bool
  first : Fin 10
  rest : List (Fin 10)
  /-- a zero stands alone -/
  leading : first = 0 → rest = []

namespace IntegerLiteral

variable {l : IntegerLiteral}

/-- The digits in their order. -/
def digits (l : IntegerLiteral) : List Nat :=
  (l.first :: l.rest).map Fin.val

/-- The number that the digits spell. -/
def magnitude (l : IntegerLiteral) : Nat :=
  Numeral.ofDigits l.digits

/-- The integer that the literal denotes. -/
def value (l : IntegerLiteral) : Int :=
  if l.negative then -l.magnitude else l.magnitude

/-- The literal as it is written. -/
def text (l : IntegerLiteral) : String :=
  (if l.negative then "-" else "") ++ String.ofList (l.digits.map Nat.digitChar)

/-- The bytes of the literal. -/
def bytes (l : IntegerLiteral) : Bytes :=
  Text.encode l.text

/-- The literal is `-0`. -/
def IsMinusZero (l : IntegerLiteral) : Prop :=
  l.negative = true ∧ l.magnitude = 0

/-- The numeral that the literal is read as. -/
def numeral (l : IntegerLiteral) : Numeral :=
  Numeral.ofNat l.negative l.magnitude

/-! ## Digits -/

/-- Digits behind a number that is not zero are the last digits of what they make of it. -/
theorem toDigits_foldl (rest : List (Fin 10)) {n : Nat} (hn : 0 < n) :
    Nat.toDigits 10 ((rest.map Fin.val).foldl (fun n d => n * 10 + d) n) =
      Nat.toDigits 10 n ++ (rest.map Fin.val).map Nat.digitChar := by
  induction rest generalizing n with
  | nil => simp
  | cons d rest ih =>
    have hnext : Nat.toDigits 10 (n * 10 + d.val) = Nat.toDigits 10 n ++ [Nat.digitChar d.val] := by
      rw [Nat.mul_comm, ← Nat.toDigits_append_toDigits (by decide) hn d.isLt,
        Nat.toDigits_of_lt_base d.isLt]
    rw [List.map_cons, List.foldl_cons, ih (by omega), hnext, List.append_assoc]
    rfl

/-- Digits without a leading zero are the decimal digits of the number that they spell. -/
theorem toDigits_ofDigits {first : Fin 10} {rest : List (Fin 10)} (h : first = 0 → rest = []) :
    Nat.toDigits 10 (Numeral.ofDigits ((first :: rest).map Fin.val)) =
      ((first :: rest).map Fin.val).map Nat.digitChar := by
  by_cases hzero : first = 0
  · obtain rfl := hzero
    obtain rfl := h rfl
    rfl
  · have hfirst : 0 * 10 + first.val = first.val := by omega
    rw [List.map_cons, Numeral.ofDigits, List.foldl_cons, hfirst,
      toDigits_foldl rest (Fin.pos_iff_ne_zero.mpr hzero), Nat.toDigits_of_lt_base first.isLt]
    rfl

theorem digits_map_digitChar (l : IntegerLiteral) :
    l.digits.map Nat.digitChar = Nat.toDigits 10 l.magnitude :=
  (toDigits_ofDigits l.leading).symm

/-- The bytes of a literal are read as its numeral. -/
theorem ofBytes?_bytes (l : IntegerLiteral) : Numeral.ofBytes? l.bytes = some l.numeral := by
  have hbytes : l.bytes = Numeral.signBytes l.negative ++
      (Nat.toDigits 10 l.magnitude).flatMap String.utf8EncodeChar := by
    rw [bytes, text, digits_map_digitChar, Text.encode_append]
    cases l.negative <;> simp [Text.encode, Numeral.signBytes]
    rfl
  rw [hbytes, Numeral.ofBytes?_toDigits, numeral]

/-- Where a literal is not minus zero it is the decimal text of what it denotes. -/
theorem text_eq_toString (h : ¬ l.IsMinusZero) : l.text = toString l.value := by
  rw [text, digits_map_digitChar, value]
  cases hnegative : l.negative with
  | false => rfl
  | true =>
    have hmagnitude : l.magnitude ≠ 0 := fun hzero => h ⟨hnegative, hzero⟩
    have hneg : ¬ 0 ≤ -(l.magnitude : Int) := by omega
    rw [if_pos rfl, if_pos rfl, Int.toString_eq_repr, Int.repr_eq_if, if_neg hneg, Int.neg_neg]
    rfl

/-! ## Values -/

/-- The number of a literal is an integer only if 64 bits hold what the literal denotes, and then it
is just that. Minus zero and all other literals are floating point, if they are numbers at all. -/
theorem value?_eq_integer_iff {n : Int} :
    l.numeral.value? = some (.integer n) ↔
      n = l.value ∧ Numeral.Fits n ∧ ¬ l.IsMinusZero := by
  rw [numeral, value, IsMinusZero, Numeral.Fits]
  have hmin : Int64.minValue.toInt = -9223372036854775808 := rfl
  have hend : Numeral.unsignedEnd = 18446744073709551616 := rfl
  rcases Nat.lt_or_ge l.magnitude Numeral.unsignedEnd with hlt | hge
  · rw [Numeral.value?_ofNat _ hlt]
    cases l.negative with
    | false =>
      simp only [Bool.not_false, if_true, Bool.false_eq_true, if_false, false_and,
        not_false_eq_true, and_true, Option.some.injEq, Number.integer.injEq]
      omega
    | true =>
      -- behind a minus the number may be zero, or too great for 63 bits
      cases hout : l.magnitude = 0 || -(l.magnitude : Int) < Int64.minValue.toInt with
      | true =>
        simp only [if_true, Bool.not_true, Bool.false_eq_true, if_false, Option.some.injEq,
          reduceCtorEq, true_and, false_iff]
        simp only [Bool.or_eq_true, decide_eq_true_eq] at hout
        omega
      | false =>
        simp only [Bool.not_true, Bool.false_eq_true, if_false, if_true, Option.some.injEq,
          Number.integer.injEq, true_and]
        simp only [Bool.or_eq_false_iff, decide_eq_false_iff_not] at hout
        omega
  · rw [Numeral.value?_ofNat_of_le _ hge]
    refine ⟨fun hvalue => ?_, ?_⟩
    · obtain ⟨x, -, hx⟩ := Option.map_eq_some_iff.mp hvalue
      cases hx
    · rintro ⟨rfl, ⟨hleast, hgreatest⟩, -⟩
      split_ifs at hleast hgreatest
      · omega
      · omega

end IntegerLiteral

end Registrar.Json
