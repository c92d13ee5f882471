/-!
# Why a text is refused

A text is no JSON, or it ends too early, or it is JSON of another kind than was asked for. What is
wrong is told in the words of the first place where it shows.
-/

namespace Registrar.Json

/-- What makes a text no JSON. -/
inductive Flaw where
  /-- no value can begin like this, or go on like this behind a kind of value -/
  | noValue
  /-- the letters of a word are others -/
  | noWord
  /-- the digits of a numeral do not go on like this -/
  | badNumeral
  /-- a number is beyond the range of floating point numbers -/
  | outOfRange
  /-- a control stands raw in a string -/
  | rawControl
  /-- a backslash is followed by something that it does not escape -/
  | badEscape
  /-- a unit of a pair stands without the other one -/
  | loneUnit
  /-- no escape follows the first unit of a pair -/
  | noSecondUnit
  /-- the bytes of a string are no text -/
  | noText
  /-- a name of a member is no string -/
  | noName
  /-- no colon stands behind a name -/
  | noColon
  /-- neither a comma nor the end of the array stands behind an item -/
  | noItemEnd
  /-- neither a comma nor the end of the object stands behind a member -/
  | noMemberEnd
  /-- nothing stands between a comma and the end -/
  | danglingComma
  /-- something stands behind the value -/
  | excess
  /-- too many containers are open -/
  | tooDeep
  deriving DecidableEq, Repr

/-- The flaw in words. -/
def Flaw.message : Flaw → String
  | .noValue => "expected value"
  | .noWord => "expected ident"
  | .badNumeral => "invalid number"
  | .outOfRange => "number out of range"
  | .rawControl => "control character (\\u0000-\\u001F) found while parsing a string"
  | .badEscape => "invalid escape"
  | .loneUnit => "lone leading surrogate in hex escape"
  | .noSecondUnit => "unexpected end of hex escape"
  | .noText => "invalid unicode code point"
  | .noName => "key must be a string"
  | .noColon => "expected `:`"
  | .noItemEnd => "expected `,` or `]`"
  | .noMemberEnd => "expected `,` or `\x7d`"
  | .danglingComma => "trailing comma"
  | .excess => "trailing characters"
  | .tooDeep => "recursion limit exceeded"

/-- What a text ends inside of. -/
inductive Part where
  | list
  | object
  | string
  /-- any other value, or the place of one -/
  | value
  deriving DecidableEq, Repr

/-- The end of a text in words. -/
def Part.message : Part → String
  | .list => "EOF while parsing a list"
  | .object => "EOF while parsing an object"
  | .string => "EOF while parsing a string"
  | .value => "EOF while parsing a value"

/-- Why a text was refused. -/
inductive Fault (ε : Type) where
  /-- it is not JSON -/
  | malformed (flaw : Flaw)
  /-- it ends inside a value -/
  | unfinished (part : Part)
  /-- it is JSON of another kind -/
  | mismatch (why : ε)
  deriving Repr

/-- The fault in words, without its place in the text. -/
def Fault.message {ε : Type} (describe : ε → String) : Fault ε → String
  | .malformed flaw => flaw.message
  | .unfinished part => part.message
  | .mismatch why => describe why

end Registrar.Json
