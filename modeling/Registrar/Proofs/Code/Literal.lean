import Registrar.Text.Escape
import Registrar.Text.Literal

/-!
# Literals read back

A reader of literals takes the characters between the quotes one after another, escapes included,
and stops behind the quote that closes the literal. Main statements: `read?_chars_append`, a literal
is read as the text that it was written for, whatever stands behind it; so `chars_append_inj`, a
literal shows its own end.
-/

namespace Registrar.Text.Literal

/-- The text up to the closing quote, and what stands behind it. No control stands for itself. -/
def readRest? (cs : List Char) : Option (List Char × List Char) :=
  match cs with
  | [] => none
  | '"' :: rest => some ([], rest)
  | '\\' :: rest =>
    match h : escaped? rest with
    | none => none
    | some (c, rest') =>
      have := escaped?_length h
      (readRest? rest').map (prepend c)
  | c :: rest => if 0x20 ≤ c.toNat then (readRest? rest).map (prepend c) else none
termination_by cs.length
decreasing_by all_goals (simp_all <;> omega)

/-- The text of a literal, and what stands behind it. -/
def read? : List Char → Option (List Char × List Char)
  | '"' :: rest => readRest? rest
  | _ => none

/-! ## One character -/

theorem readRest?_quote (rest : List Char) : readRest? ('"' :: rest) = some ([], rest) := by
  rw [readRest?]

theorem readRest?_backslash {cs rest : List Char} {c : Char} (h : escaped? cs = some (c, rest)) :
    readRest? ('\\' :: cs) = (readRest? rest).map (prepend c) := by
  rw [readRest?]
  split
  · next hnone => rw [h] at hnone; cases hnone
  · next c' rest' hsome =>
    rw [h] at hsome
    cases hsome
    rfl

theorem readRest?_self {c : Char} (rest : List Char) (hquote : c ≠ '"') (hbackslash : c ≠ '\\')
    (hc : 0x20 ≤ c.toNat) : readRest? (c :: rest) = (readRest? rest).map (prepend c) := by
  rw [readRest?]
  · rw [if_pos hc]
  · exact hquote
  · exact hbackslash

theorem hexDigit?_hexDigit : ∀ n < 16, hexDigit? (hexDigit n) = some n := by
  decide

theorem ofCodePoint?_toNat (c : Char) : ofCodePoint? c.toNat = some c := by
  have hvalid : c.toNat.isValidChar := c.valid
  rw [ofCodePoint?, dif_pos hvalid]
  rfl

/-- Four digits are read as the control that they were written for. -/
theorem escaped?_control {c : Char} (hc : c.toNat < 0x20) (rest : List Char) :
    escaped? ('u' :: '0' :: '0' :: hexDigit (c.toNat / 16) :: hexDigit (c.toNat % 16) :: rest) =
      some (c, rest) := by
  have hhigh : hexDigit? (hexDigit (c.toNat / 16)) = some (c.toNat / 16) :=
    hexDigit?_hexDigit _ (by omega)
  have hlow : hexDigit? (hexDigit (c.toNat % 16)) = some (c.toNat % 16) :=
    hexDigit?_hexDigit _ (by omega)
  have hzero : hexDigit? '0' = some 0 := rfl
  have hnumber : hexNumber? ['0', '0', hexDigit (c.toNat / 16), hexDigit (c.toNat % 16)] =
      some c.toNat := by
    simp only [hexNumber?, List.foldlM_cons, List.foldlM_nil, hzero, hhigh, hlow,
      Option.bind_eq_bind, Option.bind_some, Option.pure_def]
    congr 1
    omega
  simp [escaped?, escaped?.digits, hnumber, ofCodePoint?_toNat]

/-- However a character is written, it is read as itself. -/
theorem readRest?_escape_append (c : Char) (rest : List Char) :
    readRest? (escape c ++ rest) = (readRest? rest).map (prepend c) := by
  unfold escape
  -- seven characters have a letter of their own
  iterate 7
    split
    · next hc => subst hc; exact readRest?_backslash rfl
  split
  · next hc => exact readRest?_backslash (escaped?_control hc rest)
  · next hquote hbackslash _ _ _ _ _ hc =>
    exact readRest?_self rest hquote hbackslash (Nat.le_of_not_lt hc)

/-! ## Texts -/

/-- A literal is read as its text, and reading stops behind it. -/
theorem read?_chars_append (text rest : List Char) :
    read? (chars text ++ rest) = some (text, rest) := by
  rw [chars, List.append_assoc]
  show readRest? (text.flatMap escape ++ '"' :: rest) = some (text, rest)
  induction text with
  | nil => exact readRest?_quote rest
  | cons c text ih =>
    rw [List.flatMap_cons, List.append_assoc, readRest?_escape_append, ih]
    rfl

/-- A literal shows which text it is for and where it ends. -/
theorem chars_append_inj {s t r u : List Char} (h : chars s ++ r = chars t ++ u) :
    s = t ∧ r = u := by
  have hread : some (s, r) = some (t, u) := by
    rw [← read?_chars_append, h, read?_chars_append]
  exact Prod.mk.inj (Option.some.inj hread)

theorem newline_not_mem_chars (text : List Char) : '\n' ∉ chars text := by
  have hescape : '\n' ∉ text.flatMap escape := by
    intro h
    obtain ⟨c, -, hc⟩ := List.mem_flatMap.mp h
    exact absurd (escape_ge_space hc) (by decide)
  simpa [chars] using hescape

end Registrar.Text.Literal
