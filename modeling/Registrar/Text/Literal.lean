/-!
# String literals

Generated source holds text as double-quoted literals that both JSON and Go read back. A quote and a
backslash are preceded by a backslash, the controls with a letter of their own use it, every other
control is written with four hexadecimal digits, and all else stands for itself.
-/

namespace Registrar.Text.Literal

/-- The lower case hexadecimal digit of a number below sixteen. -/
def hexDigit (n : Nat) : Char :=
  if n < 10 then Char.ofNat (n + 0x30) else Char.ofNat (n - 10 + 0x61)

/-- How one character is written between the quotes. -/
def escape (c : Char) : List Char :=
  if c = '"' then ['\\', '"']
  else if c = '\\' then ['\\', '\\']
  else if c = '\x08' then ['\\', 'b']
  else if c = '\x0c' then ['\\', 'f']
  else if c = '\n' then ['\\', 'n']
  else if c = '\r' then ['\\', 'r']
  else if c = '\t' then ['\\', 't']
  else if c.toNat < 0x20 then
    ['\\', 'u', '0', '0', hexDigit (c.toNat / 16), hexDigit (c.toNat % 16)]
  else [c]

/-- The characters of the literal for a text. -/
def chars (text : List Char) : List Char :=
  '"' :: text.flatMap escape ++ ['"']

/-- The literal for a text. -/
def write (text : String) : String :=
  String.ofList (chars text.toList)

@[simp] theorem toList_write (text : String) : (write text).toList = chars text.toList := by
  simp [write]

/-- No character below the space appears raw. -/
theorem escape_ge_space {c d : Char} (h : d ∈ escape c) : 0x20 ≤ d.toNat := by
  unfold escape at h
  split at h <;> try (simp at h; rcases h with rfl | rfl <;> decide)
  rename_i h7
  repeat' (split at h <;> try (simp at h; rcases h with rfl | rfl <;> decide))
  · rename_i hc
    have digit_ge : ∀ n, n < 16 → 0x20 ≤ (hexDigit n).toNat := by decide
    simp only [List.mem_cons, List.not_mem_nil, or_false] at h
    rcases h with rfl | rfl | rfl | rfl | rfl | rfl
    · decide
    · decide
    · decide
    · decide
    · exact digit_ge _ (by omega)
    · exact digit_ge _ (by omega)
  · simp only [List.mem_cons, List.not_mem_nil, or_false] at h
    subst h
    omega

end Registrar.Text.Literal
