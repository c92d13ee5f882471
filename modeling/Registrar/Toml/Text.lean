import Registrar.Text.Escape

/-!
# TOML text

The parts of a TOML document that are made of characters: blanks, comments, the ends of lines, and
the four kinds of strings. Every function takes what it reads from the front of the text and returns
the text behind it.
-/

namespace Registrar.Toml

/-! ## Blanks and lines -/

/-- Whether the character may stand between the parts of a line. -/
def isBlank (c : Char) : Bool :=
  c = ' ' || c = '\t'

/-- Skips blanks. -/
def skipBlanks (cs : List Char) : List Char :=
  cs.dropWhile isBlank

/-- Takes the end of a line, or the end of the text. -/
def lineEnd? : List Char → Option (List Char)
  | [] => some []
  | '\n' :: rest => some rest
  | '\r' :: '\n' :: rest => some rest
  | _ => none

/-- Takes a comment, if there is one, up to the end of its line. -/
def comment? : List Char → Option (List Char)
  | '#' :: rest =>
    let body := rest.takeWhile Text.isQuotable
    some (rest.drop body.length)
  | cs => some cs

/-- Takes what may follow the last part of a line, and the end of the line. -/
def restOfLine? (cs : List Char) : Option (List Char) := do
  lineEnd? (← comment? (skipBlanks cs))

/-- Skips blanks and ends of lines. -/
def skipEmpty : List Char → List Char
  | ' ' :: rest => skipEmpty rest
  | '\t' :: rest => skipEmpty rest
  | '\n' :: rest => skipEmpty rest
  | '\r' :: '\n' :: rest => skipEmpty rest
  | cs => cs

theorem skipEmpty_length (cs : List Char) : (skipEmpty cs).length ≤ cs.length := by
  fun_induction skipEmpty cs <;> simp_all <;> omega

/-- Skips blanks, comments and ends of lines; the fuel bounds how many comments there are. -/
def skipLines? : Nat → List Char → Option (List Char)
  | 0, cs => some cs
  | fuel + 1, cs =>
    match skipEmpty cs with
    | '#' :: rest => do
      let rest ← comment? ('#' :: rest)
      let rest ← lineEnd? rest
      skipLines? fuel rest
    | rest => some rest

/-! ## Strings -/

/-- Takes the end of a line that a backslash joins to the next one, with all blanks after it. -/
def joined? (cs : List Char) : Option (List Char) :=
  match skipBlanks cs with
  | '\n' :: rest => some (skipEmpty rest)
  | '\r' :: '\n' :: rest => some (skipEmpty rest)
  | _ => none

theorem skipBlanks_length (cs : List Char) : (skipBlanks cs).length ≤ cs.length :=
  (List.dropWhile_sublist _).length_le

theorem joined?_length {cs rest : List Char} (h : joined? cs = some rest) :
    rest.length < cs.length := by
  have hle := skipBlanks_length cs
  unfold joined? at h
  split at h
  · next rest' heq =>
    cases h
    have := skipEmpty_length rest'
    simp_all
    omega
  · next rest' heq =>
    cases h
    have := skipEmpty_length rest'
    simp_all
    omega
  · cases h

/-- Whether the character may stand for itself in a string of several lines. -/
def isLongQuotable (c : Char) : Bool :=
  c = '\n' || Text.isQuotable c

/-- The text up to three double quotes, of which two more may belong to the text. -/
def longQuoted? (cs : List Char) : Option (List Char × List Char) :=
  match cs with
  | [] => none
  | '"' :: '"' :: '"' :: '"' :: '"' :: rest => some (['"', '"'], rest)
  | '"' :: '"' :: '"' :: '"' :: rest => some (['"'], rest)
  | '"' :: '"' :: '"' :: rest => some ([], rest)
  | '\\' :: rest =>
    match hj : joined? rest with
    | some rest' =>
      have := joined?_length hj
      longQuoted? rest'
    | none =>
      match he : Text.escaped? rest with
      | none => none
      | some (c, rest') =>
        have := Text.escaped?_length he
        (longQuoted? rest').map (Text.prepend c)
  | '\r' :: '\n' :: rest => (longQuoted? rest).map (Text.prepend '\n')
  | c :: rest => if isLongQuotable c then (longQuoted? rest).map (Text.prepend c) else none
termination_by cs.length
decreasing_by all_goals (simp_all <;> omega)

/-- The text up to a single quote. -/
def literal? : List Char → Option (List Char × List Char)
  | [] => none
  | '\'' :: rest => some ([], rest)
  | c :: rest => if Text.isQuotable c then (literal? rest).map (Text.prepend c) else none

/-- The text up to three single quotes, of which two more may belong to the text. -/
def longLiteral? : List Char → Option (List Char × List Char)
  | [] => none
  | '\'' :: '\'' :: '\'' :: '\'' :: '\'' :: rest => some (['\'', '\''], rest)
  | '\'' :: '\'' :: '\'' :: '\'' :: rest => some (['\''], rest)
  | '\'' :: '\'' :: '\'' :: rest => some ([], rest)
  | '\r' :: '\n' :: rest => (longLiteral? rest).map (Text.prepend '\n')
  | c :: rest => if isLongQuotable c then (longLiteral? rest).map (Text.prepend c) else none

/-- Skips the end of a line that follows the opening quotes. -/
def skipFirstLineEnd : List Char → List Char
  | '\n' :: rest => rest
  | '\r' :: '\n' :: rest => rest
  | cs => cs

/-- A string of one line. -/
def shortString? : List Char → Option (List Char × List Char)
  | '"' :: rest => Text.quoted? rest
  | '\'' :: rest => literal? rest
  | _ => none

/-- A string of any kind. -/
def string? : List Char → Option (List Char × List Char)
  | '"' :: '"' :: '"' :: rest => longQuoted? (skipFirstLineEnd rest)
  | '\'' :: '\'' :: '\'' :: rest => longLiteral? (skipFirstLineEnd rest)
  | cs => shortString? cs

/-! ## Names -/

/-- Whether the character may stand in a name without quotes. -/
def isNameChar (c : Char) : Bool :=
  c.isAlphanum || c = '_' || c = '-'

/-- A name, with quotes or without. -/
def name? (cs : List Char) : Option (String × List Char) :=
  match shortString? cs with
  | some (text, rest) => some (String.ofList text, rest)
  | none =>
    let name := cs.takeWhile isNameChar
    if name.isEmpty then none else some (String.ofList name, cs.dropWhile isNameChar)

/-- The most levels that brackets of one value, or names of one path, may lead down. -/
def maxDepth : Nat := 79

/-- Names with points between them, and blanks around the points; the fuel bounds how many there
are. -/
def names? : Nat → List Char → Option (List String × List Char)
  | 0, _ => none
  | fuel + 1, cs => do
    let (name, rest) ← name? (skipBlanks cs)
    match skipBlanks rest with
    | '.' :: rest => do
      let (path, rest) ← names? fuel rest
      return (name :: path, rest)
    | rest => return ([name], rest)

/-- The path that names with points between them spell, when it is not too long. -/
def path? (fuel : Nat) (cs : List Char) : Option (List String × List Char) := do
  let (path, rest) ← names? fuel cs
  if path.length ≤ maxDepth then return (path, rest) else none

end Registrar.Toml
