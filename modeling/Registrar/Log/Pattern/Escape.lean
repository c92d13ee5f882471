import Registrar.Log.Pattern.Modes
import Registrar.Text.Escape

/-!
# Escapes of a regular expression

A backslash makes a punctuation mark stand for itself, and gives a meaning of its own to a letter: a
control, a code point in hexadecimal digits, a class of characters, an end of the text, or the edge
of a word.
-/

namespace Registrar.Log.Pattern

/-- What a character stands for, or a backslash and what follows it. -/
inductive Atom where
  | char (c : Char)
  /-- a character given by two hexadecimal digits -/
  | byte (n : Nat)
  /-- one of the classes of letters, or its complement -/
  | letters (complement : Bool)
  /-- an end of the text -/
  | boundary
  /-- the edge of a word, or its absence -/
  | wordEdge
  deriving DecidableEq, Repr

/-- Whether the punctuation mark has a backslash in front of it to stand for itself. -/
def isEscapable (c : Char) : Bool :=
  c.toNat < 0x80 && !c.isAlphanum && c != '<' && c != '>'

/-- A number of hexadecimal digits, in front of each of which blanks may not count. -/
def hexDigits? (m : Modes) : Nat → List Char → Option (List Char × List Char)
  | 0, cs => some ([], cs)
  | count + 1, cs =>
    match m.skip cs with
    | [] => none
    | c :: rest => (hexDigits? m count rest).map fun (digits, rest) => (c :: digits, rest)

/-- The code point that a number of hexadecimal digits spell. -/
def codePoint? (m : Modes) (count : Nat) (cs : List Char) : Option (Nat × List Char) := do
  let (digits, rest) ← hexDigits? m count cs
  let n ← Text.hexNumber? digits
  let _ ← Text.ofCodePoint? n
  return (n, rest)

/-- What follows a backslash. -/
def escape? (m : Modes) : List Char → Option (Atom × List Char)
  | [] => none
  | 'x' :: cs => (codePoint? m 2 cs).map fun (n, cs) => (.byte n, cs)
  | 'u' :: cs => (codePoint? m 4 cs).map fun (n, cs) => (.char (Char.ofNat n), cs)
  | 'U' :: cs => (codePoint? m 8 cs).map fun (n, cs) => (.char (Char.ofNat n), cs)
  | c :: cs =>
    if isEscapable c then some (.char c, cs)
    else
      match [('a', '\x07'), ('f', '\x0c'), ('t', '\t'), ('n', '\n'), ('r', '\r'),
          ('v', '\x0b')].lookup c with
      | some control => some (.char control, cs)
      | none =>
        if "dsw".contains c then some (.letters false, cs)
        else if "DSW".contains c then some (.letters true, cs)
        else if "Az".contains c then some (.boundary, cs)
        else if "bB<>".contains c then some (.wordEdge, cs)
        else none

/-- Whether an atom may stand outside a class. -/
def Modes.allows (m : Modes) : Atom → Bool
  | .char _ => !m.needsCases
  | .byte n => !m.needsCases && (!m.ascii || n < 0x80)
  | .letters complement => m.ascii && !complement
  | .boundary => true
  | .wordEdge => m.ascii

/-- Whether an atom may stand in a class. -/
def Modes.allowsInClass (m : Modes) : Atom → Bool
  | .char c => !m.needsCases && (!m.ascii || c.toNat < 0x80)
  | .byte n => !m.needsCases && (!m.ascii || n < 0x80)
  | .letters complement => m.ascii && !complement
  | .boundary => false
  | .wordEdge => false

/-- The code point of an atom that stands for one character. -/
def Atom.point? : Atom → Option Nat
  | .char c => some c.toNat
  | .byte n => some n
  | _ => none

end Registrar.Log.Pattern
