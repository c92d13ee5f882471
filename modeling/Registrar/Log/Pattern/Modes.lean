import Registrar.Text.Blank

/-!
# Modes of a regular expression

Flags inside an expression change how the text behind them is understood. In the spaced mode, blanks
and comments do not count between the parts of an expression; a comment reaches from a number sign
to the end of its line.

Letters have no classes beyond ASCII in these expressions. What would need such a class is refused:
`\d`, `\s`, `\w`, `\p`, the edge of a word, and text in any case. In the ASCII mode the classes are
those of ASCII, and what could match half a character is refused instead.
-/

namespace Registrar.Log.Pattern

/-- How the characters of an expression are understood. -/
structure Modes where
  /-- capital and small letters are the same -/
  anyCase : Bool := false
  /-- classes are those of ASCII -/
  ascii : Bool := false
  /-- blanks and comments do not count -/
  spaced : Bool := false
  deriving DecidableEq, Repr

/-- Whether letters would have to be told in any case beyond ASCII. -/
def Modes.needsCases (m : Modes) : Bool :=
  m.anyCase && !m.ascii

/-! ## Blanks and comments -/

/-- The text behind blanks and comments, which starts inside a comment or not. -/
def skipSpaced (inComment : Bool) : List Char → List Char
  | [] => []
  | c :: cs =>
    if inComment then skipSpaced (c != '\n') cs
    else if Text.isBlank c then skipSpaced false cs
    else if c = '#' then skipSpaced true cs
    else c :: cs

/-- The text from where the next part may start. -/
def Modes.skip (m : Modes) (cs : List Char) : List Char :=
  if m.spaced then skipSpaced false cs else cs

/-- The first character that is neither blank nor the first number sign. -/
def beyondBlanks? (seenMark : Bool) : List Char → Option Char
  | [] => none
  | c :: cs =>
    if Text.isBlank c then beyondBlanks? seenMark cs
    else if c = '#' && !seenMark then beyondBlanks? true cs
    else some c

/-- The character that decides whether the dash in front of it opens a range. Of a comment only the
number sign is passed over here; where nothing but blanks follows, the first of them is taken. -/
def Modes.behindDash? (m : Modes) (cs : List Char) : Option Char :=
  if m.spaced then (beyondBlanks? false cs).or cs.head? else cs.head?

/-! ## Depth -/

/-- How deep an expression may nest. -/
def maxDepth : Nat := 250

/-- How deep several parts in a row nest together: a row of one is no level of its own. -/
def rowDepth : List Nat → Nat
  | [] => 0
  | [depth] => depth
  | depths => depths.foldl max 0 + 1

end Registrar.Log.Pattern
