import Mathlib.Data.Nat.Digits.Defs
import Mathlib.Tactic.SplitIfs
import Registrar.Json.Numeral
import Registrar.Text.Encoding

/-!
# Integers read back

The decimal digits of an integer are read as a numeral that holds these digits, and the value of
this numeral is the integer again when 64 bits hold it. Main statements: `ofBytes?_toString` and
`value?_ofInt`.
-/

namespace Registrar.Json.Numeral

open Registrar.Text (Bytes)

/-- Takes a byte that belongs to the numeral. -/
def more? (n : Numeral) (b : UInt8) : Option Numeral :=
  match n.extend b with
  | .more n => some n
  | .finished | .refused => none

theorem extend_of_more? {n n' : Numeral} {b : UInt8} (h : n.more? b = some n') :
    n.extend b = .more n' := by
  rw [more?] at h
  split at h
  · next hextend =>
    cases h
    exact hextend
  · cases h
  · cases h

/-- The numeral that bytes spell as far as they go. -/
def ofBytes? : Bytes → Option Numeral
  | [] => none
  | b :: bytes => do bytes.foldlM more? (← start? b)

theorem ofBytes?_append_singleton {bytes : Bytes} (h : bytes ≠ []) (b : UInt8) :
    ofBytes? (bytes ++ [b]) = (ofBytes? bytes).bind (·.more? b) := by
  obtain ⟨first, bytes, rfl⟩ := List.exists_cons_of_ne_nil h
  cases hfirst : start? first with
  | none => simp [ofBytes?, hfirst]
  | some n => simp [ofBytes?, hfirst, List.foldlM_append]

/-! ## Digits -/

/-- The numeral of a natural number, behind a minus or not. -/
def ofNat (negative : Bool) (n : Nat) : Numeral :=
  if n = 0 then ⟨.zero, negative, [0], [], false, []⟩
  else ⟨.whole, negative, Nat.digits 10 n, [], false, []⟩

/-- The minus of a numeral. -/
def signBytes (negative : Bool) : Bytes :=
  if negative then [0x2d] else []

theorem utf8EncodeChar_digitChar : ∀ d < 10, ∃ b, String.utf8EncodeChar (Nat.digitChar d) = [b] ∧
    digit? b = some d := by
  intro d hd
  have h : (String.utf8EncodeChar (Nat.digitChar d)).map digit? = [some d] := by
    revert d
    decide
  exact List.map_eq_singleton_iff.mp h

/-- A digit alone, or behind a minus. -/
theorem ofBytes?_digit (negative : Bool) {b : UInt8} {d : Nat} (hd : d < 10)
    (hdigit : digit? b = some d) :
    ofBytes? (signBytes negative ++ [b]) = some (ofNat negative d) := by
  have hminus : b ≠ 0x2d := by
    rintro rfl
    cases hdigit
  cases d with
  | zero =>
    cases negative with
    | false => simp [signBytes, ofBytes?, start?, ofNat, hdigit, hminus]
    | true => simp [signBytes, ofBytes?, start?, more?, extend, ofNat, hdigit]
  | succ d =>
    have hdigits : Nat.digits 10 (d + 1) = [d + 1] := Nat.digits_of_lt 10 _ d.succ_ne_zero hd
    rw [ofNat, if_neg d.succ_ne_zero, hdigits]
    cases negative with
    | false => simp [signBytes, ofBytes?, start?, hdigit, hminus]
    | true => simp [signBytes, ofBytes?, start?, more?, extend, hdigit]

/-- One more digit behind a number. -/
theorem more?_ofNat (negative : Bool) {n : Nat} (hn : n ≠ 0) {b : UInt8} {d : Nat} (hd : d < 10)
    (hdigit : digit? b = some d) :
    (ofNat negative n).more? b = some (ofNat negative (d + 10 * n)) := by
  have hdigits : Nat.digits 10 (d + 10 * n) = d :: Nat.digits 10 n :=
    Nat.digits_add 10 (by decide) d n hd (.inr hn)
  have hne : d + 10 * n ≠ 0 := by omega
  simp only [ofNat, if_neg hn, if_neg hne, more?, extend, hdigit, hdigits]

/-- The digits of a number are read as they are. -/
theorem ofBytes?_toDigits (negative : Bool) (n : Nat) :
    ofBytes? (signBytes negative ++ (Nat.toDigits 10 n).flatMap String.utf8EncodeChar) =
      some (ofNat negative n) := by
  -- a number of several digits is the number of all but the last, which is read behind them
  induction n using Nat.strong_induction_on with
  | h n ih =>
    rcases Nat.lt_or_ge n 10 with hn | hn
    · obtain ⟨b, hb, hdigit⟩ := utf8EncodeChar_digitChar n hn
      rw [Nat.toDigits_of_lt_base hn, List.flatMap_singleton, hb, ofBytes?_digit negative hn hdigit]
    · have hlast : n % 10 < 10 := Nat.mod_lt n (by decide)
      obtain ⟨b, hb, hdigit⟩ := utf8EncodeChar_digitChar (n % 10) hlast
      have hbefore := ih (n / 10) (by omega)
      have hne : signBytes negative ++
          (Nat.toDigits 10 (n / 10)).flatMap String.utf8EncodeChar ≠ [] := by
        intro h
        rw [h] at hbefore
        cases hbefore
      rw [Nat.toDigits_of_base_le (by decide) hn, List.flatMap_append, List.flatMap_singleton, hb,
        ← List.append_assoc, ofBytes?_append_singleton hne, hbefore, Option.bind_some,
        more?_ofNat negative (by omega) hlast hdigit, Nat.mod_add_div]

/-! ## Integers -/

/-- The numeral of an integer. -/
def ofInt (n : Int) : Numeral :=
  ofNat (n < 0) n.natAbs

/-- 64 bits hold the integer, with a sign or without. -/
def Fits (n : Int) : Prop :=
  Int64.minValue.toInt ≤ n ∧ n < unsignedEnd

/-- The text of an integer is read as its numeral. -/
theorem ofBytes?_toString (n : Int) : ofBytes? (Text.encode (toString n)) = some (ofInt n) := by
  have htext : Text.encode (toString n) =
      signBytes (n < 0) ++ (Nat.toDigits 10 n.natAbs).flatMap String.utf8EncodeChar := by
    rw [Int.toString_eq_repr, Int.repr_eq_if]
    split_ifs with hn
    · have hnot : ¬ n < 0 := by omega
      have habs : n.natAbs = n.toNat := by omega
      simp [Text.encode, signBytes, Nat.toList_repr, hnot, habs]
    · have hneg : n < 0 := by omega
      have habs : n.natAbs = (-n).toNat := by omega
      rw [Text.encode_append, habs]
      simp [Text.encode, signBytes, Nat.toList_repr, hneg]
      rfl
  rw [htext, ofBytes?_toDigits, ofInt]

theorem le_foldl (digits : List Nat) (n : Nat) : n ≤ digits.foldl (fun n d => n * 10 + d) n := by
  induction digits generalizing n with
  | nil => exact Nat.le_refl n
  | cons d digits ih => exact Nat.le_trans (by omega) (ih (n * 10 + d))

/-- Digits whose number 64 bits hold are all taken. -/
theorem absorb_of_lt {digits : List Nat} {n : Nat}
    (h : digits.foldl (fun n d => n * 10 + d) n < unsignedEnd) :
    absorb n digits = (digits.foldl (fun n d => n * 10 + d) n, 0) := by
  induction digits generalizing n with
  | nil => rfl
  | cons d digits ih =>
    rw [List.foldl_cons] at h ⊢
    rw [absorb, if_pos (Nat.lt_of_le_of_lt (le_foldl digits _) h), ih h]

theorem foldl_digits (n : Nat) :
    (Nat.digits 10 n).reverse.foldl (fun n d => n * 10 + d) 0 = n := by
  conv => rhs; rw [← Nat.ofDigits_digits 10 n, Nat.ofDigits_eq_foldr]
  rw [List.foldl_reverse]
  congr 1
  funext d n
  rw [Nat.cast_id, Nat.mul_comm, Nat.add_comm]

theorem part_ofNat (negative : Bool) (n : Nat) :
    (ofNat negative n).part = .zero ∨ (ofNat negative n).part = .whole := by
  rw [ofNat]
  split_ifs
  · exact .inl rfl
  · exact .inr rfl

theorem absorb_ofNat (negative : Bool) {n : Nat} (h : n < unsignedEnd) :
    absorb 0 (ofNat negative n).whole.reverse = (n, 0) := by
  rw [ofNat]
  split_ifs with hn
  · subst hn
    rfl
  · have hdigits := foldl_digits n
    rw [absorb_of_lt (by rwa [hdigits]), hdigits]

/-- The value of a number of 64 bits without a sign is the number. Behind a minus it is an integer
when 64 bits with a sign hold it, and it is not zero. -/
theorem value?_ofNat (negative : Bool) {n : Nat} (h : n < unsignedEnd) :
    (ofNat negative n).value? =
      if !negative then some (.integer n)
      else if n = 0 || -(n : Int) < Int64.minValue.toInt then
        some (.floating (Binary64.ofNat true n))
      else some (.integer (-n)) := by
  have hnegative : (ofNat negative n).negative = negative := by
    rw [ofNat]
    split_ifs <;> rfl
  have hwhole : ((ofNat negative n).part != .zero && (ofNat negative n).part != .whole ||
      (0 : Nat) != 0) = false := by
    rcases part_ofNat negative n with hpart | hpart <;> rw [hpart] <;> rfl
  rw [value?, absorb_ofNat negative h, hnegative]
  simp only [hwhole, Bool.false_eq_true, if_false]

/-- The value of the numeral of an integer is the integer. -/
theorem value?_ofInt {n : Int} (h : Fits n) : (ofInt n).value? = some (.integer n) := by
  obtain ⟨hmin, hmax⟩ := h
  -- behind a minus 63 bits are enough, and without one all 64 count
  have hunsigned : n.natAbs < unsignedEnd := by
    change -9223372036854775808 ≤ n at hmin
    change n < 18446744073709551616 at hmax
    change n.natAbs < 18446744073709551616
    omega
  rw [ofInt, value?_ofNat _ hunsigned]
  by_cases hn : n < 0
  · have hback : -(n.natAbs : Int) = n := by omega
    have hzero : n.natAbs ≠ 0 := by omega
    have hnot : ¬ n < Int64.minValue.toInt := by omega
    simp only [hn, hback, hnot, hzero, decide_true, decide_false, Bool.not_true, Bool.or_false,
      Bool.false_eq_true, if_false]
  · have hback : (n.natAbs : Int) = n := by omega
    simp only [hn, hback, decide_false, Bool.not_false, if_true]

/-- The numeral of a number ends before everything that continues no integer. -/
theorem extend_ofNat (negative : Bool) (n : Nat) {b : UInt8} (hdigit : digit? b = none)
    (hpoint : b ≠ 0x2e) (hmark : isMark b = false) : (ofNat negative n).extend b = .finished := by
  rcases part_ofNat negative n with hpart | hpart <;>
    simp [extend, hpart, hdigit, hpoint, hmark]

theorem isComplete_ofInt (n : Int) : (ofInt n).isComplete = true := by
  rcases part_ofNat (n < 0) n.natAbs with hpart | hpart <;> rw [isComplete, ofInt, hpart]

end Registrar.Json.Numeral
