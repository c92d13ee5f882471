import Registrar.Proofs.Code.Literal
import Registrar.Proofs.Json.Spelling

/-!
# Literals in both languages

One literal is read in two languages. JSON reads bytes: the machine of `Json.Spelling` takes them
one by one and leaves what stands behind the closing quote (`Json.Spelling.read?`). Go reads an
interpreted string as the bytes that it stands for (`GoString.read?`), knows more escapes than the
literals use, and refuses no character but a newline. What the plain reader of literals reads, Go
reads alike (`GoString.readRest?_of_literal`). Main statement: `Text.Literal.write_read_back`.
-/

namespace Registrar

open Text (Bytes)

/-! ## Reading by the rules of JSON -/

namespace Json.Spelling

/-- The text of a string up to its closing quote, and the bytes behind it. -/
def readRest? (s : Spelling) : Bytes → Option (String × Bytes)
  | [] => none
  | b :: rest =>
    match s.extend b with
    | .more s => s.readRest? rest
    | .finished text => some (text, rest)
    | .refused => none

/-- The text of a string from its opening quote on, and the bytes behind it. -/
def read? : Bytes → Option (String × Bytes)
  | [] => none
  | b :: rest => if b = 0x22 then start.readRest? rest else none

theorem readRest?_append {s s' : Spelling} {front : Bytes} (h : front.foldlM more? s = some s')
    (rest : Bytes) : s.readRest? (front ++ rest) = s'.readRest? rest := by
  induction front generalizing s with
  | nil =>
    obtain rfl : s = s' := Option.some.inj h
    rfl
  | cons b front ih =>
    rw [List.foldlM_cons, Option.bind_eq_bind, Option.bind_eq_some_iff] at h
    obtain ⟨next, hnext, hfront⟩ := h
    rw [List.cons_append, readRest?, extend_of_more? hnext]
    exact ih hfront

/-- The bytes of a literal are read as its text, and reading stops behind them. -/
theorem read?_encode_write_append (s : String) (rest : Bytes) :
    read? (Text.encode (Text.Literal.write s) ++ rest) = some (s, rest) := by
  have hquote : readRest? ⟨(Text.encode s).reverse, .plain⟩ (0x22 :: rest) = some (s, rest) := by
    rw [readRest?, extend_quote]
  rw [encode_write, List.append_assoc, List.cons_append, read?, if_pos rfl, start,
    readRest?_append (foldlM_more?_inner s.toList), List.append_nil]
  exact hquote

end Json.Spelling

/-! ## Reading by the rules of Go -/

namespace GoString

open Text (hexDigit? escaped? escaped?_length)

/-- The number that digits spell in a base up to sixteen. -/
def number? (base : Nat) (digits : List Char) : Option Nat :=
  digits.foldlM (fun n c => do
    let digit ← hexDigit? c
    if digit < base then some (n * base + digit) else none) 0

/-- The byte that a fixed count of digits spells, and what stands behind them. -/
def byte? (base count : Nat) (cs : List Char) : Option (Bytes × List Char) :=
  if count ≤ cs.length then do
    let n ← number? base (cs.take count)
    if n < 0x100 then some ([UInt8.ofNat n], cs.drop count) else none
  else none

/-- The bytes that an escape of Go alone stands for, and what stands behind it: the bell, the
vertical tab, and bytes by two hexadecimal or three octal digits. -/
def ownEscape? : List Char → Option (Bytes × List Char)
  | 'a' :: rest => some ([0x07], rest)
  | 'v' :: rest => some ([0x0b], rest)
  | 'x' :: rest => byte? 16 2 rest
  | cs => byte? 8 3 cs

/-- The bytes that an escape stands for, and what stands behind it. The backslash is already
taken. -/
def escape? (cs : List Char) : Option (Bytes × List Char) :=
  match escaped? cs with
  | some (c, rest) => some (String.utf8EncodeChar c, rest)
  | none => ownEscape? cs

theorem byte?_length {base count : Nat} {cs rest : List Char} {bytes : Bytes}
    (h : byte? base count cs = some (bytes, rest)) : rest = cs.drop count ∧ count ≤ cs.length := by
  rw [byte?] at h
  split_ifs at h with hcount
  rw [Option.bind_eq_bind, Option.bind_eq_some_iff] at h
  obtain ⟨n, -, hn⟩ := h
  split_ifs at hn
  exact ⟨(Prod.mk.inj (Option.some.inj hn)).2.symm, hcount⟩

theorem escape?_length {cs rest : List Char} {bytes : Bytes} (h : escape? cs = some (bytes, rest)) :
    rest.length < cs.length := by
  rw [escape?] at h
  split at h
  · next hescaped =>
    cases h
    exact escaped?_length hescaped
  · unfold ownEscape? at h
    split at h
    · cases h
      simp
    · cases h
      simp
    · obtain ⟨rfl, hcount⟩ := byte?_length h
      simp only [List.length_drop, List.length_cons]
      omega
    · obtain ⟨rfl, hcount⟩ := byte?_length h
      rw [List.length_drop]
      omega

/-- Puts bytes in front of what was read. -/
def prepend (bytes : Bytes) (read : Bytes × List Char) : Bytes × List Char :=
  (bytes ++ read.1, read.2)

/-- The bytes of an interpreted string up to its closing quote, and what stands behind it. -/
def readRest? (cs : List Char) : Option (Bytes × List Char) :=
  match cs with
  | [] => none
  | '"' :: rest => some ([], rest)
  | '\\' :: rest =>
    match h : escape? rest with
    | none => none
    | some (bytes, rest') =>
      have := escape?_length h
      (readRest? rest').map (prepend bytes)
  | c :: rest => if c = '\n' then none else (readRest? rest).map (prepend (String.utf8EncodeChar c))
termination_by cs.length
decreasing_by all_goals (simp_all <;> omega)

/-- The bytes of an interpreted string from its opening quote on, and what stands behind it. -/
def read? : List Char → Option (Bytes × List Char)
  | '"' :: rest => readRest? rest
  | _ => none

/-! ### What literals use of the rules -/

theorem readRest?_quote (rest : List Char) : readRest? ('"' :: rest) = some ([], rest) := by
  rw [readRest?]

theorem readRest?_backslash {cs rest : List Char} {c : Char} (h : escaped? cs = some (c, rest)) :
    readRest? ('\\' :: cs) = (readRest? rest).map (prepend (String.utf8EncodeChar c)) := by
  have hescape : escape? cs = some (String.utf8EncodeChar c, rest) := by rw [escape?, h]
  rw [readRest?]
  split
  · next hnone => rw [hescape] at hnone; cases hnone
  · next bytes rest' hsome =>
    rw [hescape] at hsome
    cases hsome
    rfl

theorem readRest?_self {c : Char} (rest : List Char) (hquote : c ≠ '"') (hbackslash : c ≠ '\\')
    (hnewline : c ≠ '\n') :
    readRest? (c :: rest) = (readRest? rest).map (prepend (String.utf8EncodeChar c)) := by
  rw [readRest?]
  · rw [if_neg hnewline]
  · exact hquote
  · exact hbackslash

/-- What is read by the rules that literals follow is read alike in Go, as the bytes of its
characters. -/
theorem readRest?_of_literal {cs text rest : List Char}
    (h : Text.Literal.readRest? cs = some (text, rest)) :
    readRest? cs = some (text.flatMap String.utf8EncodeChar, rest) := by
  fun_induction Text.Literal.readRest? cs generalizing text with
  | case1 => cases h
  | case2 rest' =>
    cases h
    exact readRest?_quote rest
  | case3 => cases h
  | case4 cs c rest' hescaped _ ih =>
    obtain ⟨⟨text', rest''⟩, hread, hprepend⟩ := Option.map_eq_some_iff.mp h
    cases hprepend
    rw [readRest?_backslash hescaped, ih hread]
    rfl
  | case5 c cs hquote hbackslash hspace ih =>
    obtain ⟨⟨text', rest''⟩, hread, hprepend⟩ := Option.map_eq_some_iff.mp h
    cases hprepend
    have hnewline : c ≠ '\n' := by
      rintro rfl
      exact absurd hspace (by decide)
    rw [readRest?_self cs hquote hbackslash hnewline, ih hread]
    rfl
  | case6 => cases h

/-- A literal is read in Go as the bytes of its text, and reading stops behind it. -/
theorem read?_write_append (s : String) (rest : List Char) :
    read? ((Text.Literal.write s).toList ++ rest) = some (Text.encode s, rest) := by
  have hliteral := Text.Literal.read?_chars_append s.toList rest
  rw [Text.Literal.toList_write]
  rw [Text.Literal.chars, List.append_assoc, List.cons_append] at hliteral ⊢
  exact readRest?_of_literal hliteral

example : read? "\"a\\x41\\101\\v\" b".toList = some ([0x61, 0x41, 0x41, 0x0b], " b".toList) := by
  decide +kernel

end GoString

namespace Text.Literal

/-! ## Between the quotes -/

/-- Every quote stands behind a backslash that escapes it, and no backslash is left over. -/
def isSealed : List Char → Bool
  | [] => true
  | ['\\'] => false
  | '\\' :: _ :: rest => isSealed rest
  | c :: rest => c ≠ '"' && isSealed rest

theorem isSealed_backslash (c : Char) (rest : List Char) :
    isSealed ('\\' :: c :: rest) = isSealed rest := by
  rw [isSealed]

theorem isSealed_self {c : Char} (rest : List Char) (hquote : c ≠ '"') (hbackslash : c ≠ '\\') :
    isSealed (c :: rest) = isSealed rest := by
  rw [isSealed]
  · simp [hquote]
  · exact fun h _ => hbackslash h
  · exact fun c' rest' h _ => hbackslash h

theorem hexDigit_ne : ∀ n < 16, hexDigit n ≠ '"' ∧ hexDigit n ≠ '\\' := by
  decide

theorem isSealed_escape_append (c : Char) (rest : List Char) :
    isSealed (escape c ++ rest) = isSealed rest := by
  unfold escape
  iterate 7
    split
    · exact isSealed_backslash _ rest
  split
  · next hc =>
    obtain ⟨hhigh, hhigh'⟩ := hexDigit_ne (c.toNat / 16) (by omega)
    obtain ⟨hlow, hlow'⟩ := hexDigit_ne (c.toNat % 16) (by omega)
    simp only [List.cons_append, List.nil_append]
    rw [isSealed_backslash, isSealed_self _ (by decide) (by decide),
      isSealed_self _ (by decide) (by decide), isSealed_self _ hhigh hhigh',
      isSealed_self _ hlow hlow']
  · next hquote hbackslash _ _ _ _ _ _ => exact isSealed_self rest hquote hbackslash

theorem isSealed_flatMap_escape (text : List Char) : isSealed (text.flatMap escape) = true := by
  induction text with
  | nil => rfl
  | cons c text ih => rw [List.flatMap_cons, isSealed_escape_append, ih]

/-- A literal is read back as its text by the rules of JSON and by those of Go, whatever stands
behind it, and reading stops at its end. Between its quotes there is no control and no quote that is
not escaped. So a literal tells its text, and none is the beginning of another. -/
theorem write_read_back (s : String) :
    (∀ rest : Bytes, Json.Spelling.read? (Text.encode (write s) ++ rest) = some (s, rest)) ∧
      (∀ rest : List Char, GoString.read? ((write s).toList ++ rest) = some (Text.encode s, rest)) ∧
        (∃ inner, (write s).toList = '"' :: inner ++ ['"'] ∧ (∀ c ∈ inner, 0x20 ≤ c.toNat) ∧
          isSealed inner = true) ∧
          (∀ t, write s = write t → s = t) ∧
            ∀ t, (write s).toList <+: (write t).toList → write s = write t := by
  have hbegins : ∀ t, (write s).toList <+: (write t).toList → s = t := by
    rintro t ⟨rest, hrest⟩
    rw [toList_write, toList_write, ← List.append_nil (chars t.toList)] at hrest
    exact String.toList_inj.mp (chars_append_inj hrest).1
  refine ⟨Json.Spelling.read?_encode_write_append s, GoString.read?_write_append s,
    ⟨s.toList.flatMap escape, toList_write s, ?_, isSealed_flatMap_escape _⟩, ?_, ?_⟩
  · intro c hc
    obtain ⟨d, -, hd⟩ := List.mem_flatMap.mp hc
    exact escape_ge_space hd
  · exact fun t ht => hbegins t (ht ▸ List.prefix_refl _)
  · exact fun t ht => congrArg write (hbegins t ht)

end Text.Literal

end Registrar
