/-!
# Text as bytes

Files, feeds and printed output are bytes; everything else in the library is text. `encode` writes
text as UTF-8 and `decode?` reads it back, refusing every byte sequence that is not UTF-8 (overlong
forms and surrogates included). Main statement: `decode?_encode`.
-/

namespace Registrar.Text

/-- Bytes, as files and streams hold them. -/
abbrev Bytes := List UInt8

/-- The UTF-8 bytes of a text. -/
def encode (text : String) : Bytes :=
  text.toList.flatMap String.utf8EncodeChar

/-- The text that bytes spell, when they are UTF-8. -/
def decode? (bytes : Bytes) : Option String :=
  String.fromUTF8? bytes.toByteArray

@[simp] theorem encode_empty : encode "" = [] := rfl

theorem encode_append (s t : String) : encode (s ++ t) = encode s ++ encode t := by
  simp [encode]

theorem toByteArray_encode (s : String) : (encode s).toByteArray = s.toByteArray := by
  conv => rhs; rw [← String.ofList_toList (s := s)]
  rw [String.toByteArray_ofList]
  rfl

/-- Reading what was written gives the text back. -/
theorem decode?_encode (s : String) : decode? (encode s) = some s := by
  have h : s.toByteArray.IsValidUTF8 := s.isValidUTF8
  simp only [decode?, toByteArray_encode, String.fromUTF8?, h, dite_true]
  rfl

/-- Texts with the same bytes are the same. -/
theorem encode_inj {s t : String} (h : encode s = encode t) : s = t := by
  have hread : some s = some t := by
    rw [← decode?_encode, h, decode?_encode]
  exact Option.some.inj hread

end Registrar.Text
