/-!
# Blank characters

The characters with the Unicode property `White_Space`, which is what trimming removes from both
ends of a text.
-/

namespace Registrar.Text

/-- Whether the character is white space after Unicode. -/
def isBlank (c : Char) : Bool :=
  c.isWhitespace || c.toNat = 0xb || c.toNat = 0xc || c.toNat = 0x85 || c.toNat = 0xa0 ||
    c.toNat = 0x1680 || (0x2000 ≤ c.toNat && c.toNat ≤ 0x200a) || c.toNat = 0x2028 ||
    c.toNat = 0x2029 || c.toNat = 0x202f || c.toNat = 0x205f || c.toNat = 0x3000

/-- The characters without the blank ones at either end. -/
def trimBlank (cs : List Char) : List Char :=
  ((cs.dropWhile isBlank).reverse.dropWhile isBlank).reverse

/-- The text without blanks at either end. -/
def trim (text : String) : String :=
  String.ofList (trimBlank text.toList)

end Registrar.Text
