/-!
# Cutting text at a byte

`cutAtByte?` cuts characters where a number of bytes ends, in the encoding of a text. There is no
such cut inside a character or behind the end. Main statements: `cutAtByte?_append`, nothing is
lost, and `cutAtByte?_byteCount`, the first part has that many bytes.
-/

namespace Registrar.Text

/-- How many bytes the characters take. -/
def byteCount : List Char → Nat
  | [] => 0
  | c :: cs => c.utf8Size + byteCount cs

/-- The characters in front of the end of a number of bytes, and those behind it. -/
def cutAtByte? (count : Nat) : List Char → Option (List Char × List Char)
  | [] => if count = 0 then some ([], []) else none
  | c :: cs =>
    if count = 0 then some ([], c :: cs)
    else if c.utf8Size ≤ count then
      (cutAtByte? (count - c.utf8Size) cs).map fun (front, rest) => (c :: front, rest)
    else none

theorem cutAtByte?_append {count : Nat} {cs front rest : List Char}
    (h : cutAtByte? count cs = some (front, rest)) : front ++ rest = cs := by
  induction cs generalizing count front with
  | nil =>
    unfold cutAtByte? at h
    split at h <;> simp_all
  | cons c cs ih =>
    unfold cutAtByte? at h
    split at h
    · simp_all
    · split at h
      · obtain ⟨⟨front', rest'⟩, hcut, heq⟩ := Option.map_eq_some_iff.mp h
        cases heq
        simp [ih hcut]
      · cases h

theorem cutAtByte?_byteCount {count : Nat} {cs front rest : List Char}
    (h : cutAtByte? count cs = some (front, rest)) : byteCount front = count := by
  induction cs generalizing count front with
  | nil =>
    unfold cutAtByte? at h
    split at h <;> simp_all [byteCount]
  | cons c cs ih =>
    unfold cutAtByte? at h
    split at h
    · simp_all [byteCount]
    · split at h
      · obtain ⟨⟨front', rest'⟩, hcut, heq⟩ := Option.map_eq_some_iff.mp h
        cases heq
        have := ih hcut
        simp only [byteCount]
        omega
      · cases h

end Registrar.Text
