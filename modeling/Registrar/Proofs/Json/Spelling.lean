import Mathlib.Tactic.SplitIfs
import Registrar.Json.Spelling
import Registrar.Text.Literal

/-!
# Literals read back by bytes

A literal is read one byte at a time, and what its characters were written for is what the reader
has in the end. A byte beyond ASCII ends nothing and escapes nothing, so characters that stand for
themselves do so byte by byte; every escape leads back to the bytes of its character. Main
statements: `foldlM_more?_escape` for one character and `extend_quote` for the quote that ends the
literal of a text.
-/

namespace Registrar.Json.Spelling

open Registrar.Text (Bytes)
open Registrar.Text.Literal (escape hexDigit)

variable {bytes : Bytes}

/-- Takes a byte that does not end the string. -/
def more? (s : Spelling) (b : UInt8) : Option Spelling :=
  match s.extend b with
  | .more s => some s
  | .finished _ | .refused => none

theorem extend_of_more? {s s' : Spelling} {b : UInt8} (h : s.more? b = some s') :
    s.extend b = .more s' := by
  rw [more?] at h
  split at h
  · next hextend =>
    cases h
    exact hextend
  · cases h
  · cases h

/-! ## Bytes that stand for themselves -/

/-- The byte neither ends a string nor begins an escape, and is no control. -/
def IsRaw (b : UInt8) : Prop :=
  b ≠ 0x22 ∧ b ≠ 0x5c ∧ ¬ b < 0x20

theorem foldlM_more?_raw {raw : Bytes} (h : ∀ b ∈ raw, IsRaw b) :
    raw.foldlM more? ⟨bytes, .plain⟩ = some ⟨raw.reverse ++ bytes, .plain⟩ := by
  induction raw generalizing bytes with
  | nil => rfl
  | cons b raw ih =>
    obtain ⟨⟨hquote, hbackslash, hcontrol⟩, hraw⟩ := List.forall_mem_cons.mp h
    have hb : more? ⟨bytes, .plain⟩ b = some ⟨b :: bytes, .plain⟩ := by
      simp only [more?, extend, if_neg hquote, if_neg hbackslash, if_neg hcontrol]
    rw [List.foldlM_cons, hb, Option.bind_eq_bind, Option.bind_some, ih hraw, List.reverse_cons,
      List.append_assoc, List.singleton_append]

/-- A character of ASCII is one byte, and the bytes of all others are beyond ASCII. -/
theorem toNat_utf8EncodeChar (c : Char) :
    ∀ b ∈ String.utf8EncodeChar c, b.toNat = c.toNat ∨ 0x80 ≤ b.toNat := by
  have hc : c.val.toNat = c.toNat := rfl
  rw [String.utf8EncodeChar]
  split_ifs
  all_goals
    simp only [List.forall_mem_cons, List.not_mem_nil, false_implies, implies_true, and_true,
      UInt8.toNat_ofNat']
    omega

theorem isRaw_of_mem_utf8EncodeChar {c : Char} (hquote : c ≠ '"') (hbackslash : c ≠ '\\')
    (hc : ¬ c.toNat < 0x20) {b : UInt8} (h : b ∈ String.utf8EncodeChar c) : IsRaw b := by
  have hne : ∀ d : Char, c ≠ d → c.toNat ≠ d.toNat := fun d hd h => hd (Char.toNat_inj.mp h)
  have hquote := hne _ hquote
  have hbackslash := hne _ hbackslash
  have hb := toNat_utf8EncodeChar c b h
  simp only [IsRaw, ne_eq, UInt8.lt_iff_toNat_lt, ← UInt8.toNat_inj]
  change c.toNat ≠ 0x22 at hquote
  change c.toNat ≠ 0x5c at hbackslash
  change ¬ b.toNat = 0x22 ∧ ¬ b.toNat = 0x5c ∧ ¬ b.toNat < 0x20
  omega

/-! ## Escapes -/

/-- Four digits are taken as the unit that they spell. -/
theorem foldlM_more?_unit {a b c d : UInt8} {unit : Nat}
    (hunit : hexNumber? [d, c, b, a] = some unit) (hcontrol : unit < 0x20) :
    [a, b, c, d].foldlM more? ⟨bytes, .unit none []⟩ =
      some ⟨(String.utf8EncodeChar (Char.ofNat unit)).reverse ++ bytes, .plain⟩ := by
  have htrail : isTrail unit = false := by
    simp only [isTrail, Bool.and_eq_false_iff, decide_eq_false_iff_not]
    omega
  have hlead : isLead unit = false := by
    simp only [isLead, Bool.and_eq_false_iff, decide_eq_false_iff_not]
    omega
  have hend : more? ⟨bytes, .unit none [c, b, a]⟩ d =
      some ⟨(String.utf8EncodeChar (Char.ofNat unit)).reverse ++ bytes, .plain⟩ := by
    simp [more?, extend, hunit, takeUnit, htrail, hlead, push]
  change (more? ⟨bytes, .unit none [c, b, a]⟩ d >>= pure) = _
  rw [hend]
  rfl

theorem utf8EncodeChar_hexDigit : ∀ n < 16, ∃ b, String.utf8EncodeChar (hexDigit n) = [b] ∧
    hexValue? b = some n := by
  intro n hn
  have h : (String.utf8EncodeChar (hexDigit n)).map hexValue? = [some n] := by
    revert n
    decide
  exact List.map_eq_singleton_iff.mp h

/-- However a character is written, the reader has its bytes in the end. -/
theorem foldlM_more?_escape (c : Char) :
    ((escape c).flatMap String.utf8EncodeChar).foldlM more? ⟨bytes, .plain⟩ =
      some ⟨(String.utf8EncodeChar c).reverse ++ bytes, .plain⟩ := by
  unfold escape
  -- seven characters have a letter of their own
  iterate 7
    split
    · next hc => subst hc; rfl
  split
  · next hc =>
    obtain ⟨high, hhigh, hhighValue⟩ := utf8EncodeChar_hexDigit (c.toNat / 16) (by omega)
    obtain ⟨low, hlow, hlowValue⟩ := utf8EncodeChar_hexDigit (c.toNat % 16) (by omega)
    have hunit : hexNumber? [low, high, 0x30, 0x30] = some c.toNat := by
      have hzero : hexValue? 0x30 = some 0 := rfl
      simp only [hexNumber?, hzero, hhighValue, hlowValue, Option.bind_eq_bind, Option.bind_some,
        Option.pure_def]
      congr 1
      omega
    have hdigits : [0x30, 0x30, high, low].foldlM more? ⟨bytes, .unit none []⟩ =
        some ⟨(String.utf8EncodeChar c).reverse ++ bytes, .plain⟩ := by
      rw [foldlM_more?_unit hunit hc, Char.ofNat_toNat]
    simp only [List.flatMap_cons, List.flatMap_nil, hhigh, hlow]
    exact hdigits
  · next hquote hbackslash _ _ _ _ _ hc =>
    rw [List.flatMap_singleton]
    exact foldlM_more?_raw fun b => isRaw_of_mem_utf8EncodeChar hquote hbackslash hc

/-! ## Texts -/

/-- The bytes between the quotes of the literal for a text. -/
def inner (text : List Char) : Bytes :=
  (text.flatMap escape).flatMap String.utf8EncodeChar

theorem encode_write (s : String) :
    Text.encode (Text.Literal.write s) = 0x22 :: inner s.toList ++ [0x22] := by
  simp [Text.encode, Text.Literal.chars, inner, String.utf8EncodeChar]

/-- What stands between the quotes is taken as the bytes of the text. -/
theorem foldlM_more?_inner (text : List Char) :
    (inner text).foldlM more? ⟨bytes, .plain⟩ =
      some ⟨(text.flatMap String.utf8EncodeChar).reverse ++ bytes, .plain⟩ := by
  induction text generalizing bytes with
  | nil => rfl
  | cons c text ih =>
    have hcons : inner (c :: text) = (escape c).flatMap String.utf8EncodeChar ++ inner text := by
      simp only [inner, List.flatMap_cons, List.flatMap_append]
    rw [hcons, List.foldlM_append, foldlM_more?_escape, Option.bind_eq_bind, Option.bind_some, ih,
      List.flatMap_cons, List.reverse_append, List.append_assoc]

/-- The quote behind the bytes of a text ends the string. -/
theorem extend_quote (s : String) :
    extend ⟨(Text.encode s).reverse, .plain⟩ 0x22 = .finished s := by
  simp [extend, Text.decode?_encode]

end Registrar.Json.Spelling
