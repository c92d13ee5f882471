/-!
# Escapes of settings text

In settings, text between double quotes holds escapes: a backslash and one letter, or `u` with four
or `U` with eight hexadecimal digits of a code point that is no surrogate.
-/

namespace Registrar.Text

/-- The value of a hexadecimal digit. -/
def hexDigit? (c : Char) : Option Nat :=
  if '0' ≤ c ∧ c ≤ '9' then some (c.toNat - '0'.toNat)
  else if 'a' ≤ c ∧ c ≤ 'f' then some (c.toNat - 'a'.toNat + 10)
  else if 'A' ≤ c ∧ c ≤ 'F' then some (c.toNat - 'A'.toNat + 10)
  else none

/-- The number that hexadecimal digits spell. -/
def hexNumber? (digits : List Char) : Option Nat :=
  digits.foldlM (fun n c => do return n * 16 + (← hexDigit? c)) 0

/-- The character of a code point. -/
def ofCodePoint? (n : Nat) : Option Char :=
  if h : n.isValidChar then some (Char.ofNatAux n h) else none

/-- The character that an escape stands for, and the text behind it. The backslash is already
taken. -/
def escaped? : List Char → Option (Char × List Char)
  | '"' :: rest => some ('"', rest)
  | '\\' :: rest => some ('\\', rest)
  | 'b' :: rest => some ('\x08', rest)
  | 'f' :: rest => some ('\x0c', rest)
  | 'n' :: rest => some ('\n', rest)
  | 'r' :: rest => some ('\r', rest)
  | 't' :: rest => some ('\t', rest)
  | 'u' :: rest => digits 4 rest
  | 'U' :: rest => digits 8 rest
  | _ => none
where
  digits (count : Nat) (rest : List Char) : Option (Char × List Char) :=
    if count ≤ rest.length then do
      let c ← ofCodePoint? (← hexNumber? (rest.take count))
      return (c, rest.drop count)
    else none

theorem escaped?_length {cs rest : List Char} {c : Char} (h : escaped? cs = some (c, rest)) :
    rest.length < cs.length := by
  have digits_le : ∀ count (cs : List Char), escaped?.digits count cs = some (c, rest) →
      rest.length ≤ cs.length := by
    intro count cs h
    unfold escaped?.digits at h
    split at h
    · simp only [Option.bind_eq_bind, Option.bind_eq_some_iff] at h
      obtain ⟨_, _, _, _, h⟩ := h
      cases h
      simp
    · cases h
  unfold escaped? at h
  split at h <;> try (first | cases h | skip)
  all_goals simp only [List.length_cons]
  all_goals first | omega | exact Nat.lt_succ_of_le (digits_le _ _ h)

/-- Whether the character may stand for itself between quotes: no control but the tab. -/
def isQuotable (c : Char) : Bool :=
  c = '\t' || (0x20 ≤ c.toNat && c.toNat != 0x7f)

/-- Puts a character in front of the text that was read. -/
def prepend (c : Char) (read : List Char × List Char) : List Char × List Char :=
  (c :: read.1, read.2)

/-- The text up to a closing double quote, and the text behind it. -/
def quoted? (cs : List Char) : Option (List Char × List Char) :=
  match cs with
  | [] => none
  | '"' :: rest => some ([], rest)
  | '\\' :: rest =>
    match h : escaped? rest with
    | none => none
    | some (c, rest') =>
      have := escaped?_length h
      (quoted? rest').map (prepend c)
  | c :: rest => if isQuotable c then (quoted? rest).map (prepend c) else none
termination_by cs.length
decreasing_by all_goals (simp_all <;> omega)

end Registrar.Text
