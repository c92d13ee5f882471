import Registrar.Feed.Mismatch
import Registrar.Json.Reader

/-!
# One of several names

A choice between alternatives is written as the name of one of them, or as an object whose only
member has that name and holds nothing.

Inside a larger value the choice is understood once it is complete. A text that is nothing but the
choice is refused at the first byte that no choice can have there: what opens neither a string nor
an object, and in the object anything but one name, a colon and `null`, is no choice at all; a name
that stands for nothing and a value in the place of `null` are mismatches as soon as they are seen.
-/

namespace Registrar.Feed

open Registrar.Json (Value Reader Fault Form)

variable {α : Type}

/-- Finds the alternative of a name. -/
def findVariant (name : α → String) (all : List α) (text : String) : Except Mismatch α :=
  match all.find? fun a => name a = text with
  | some a => .ok a
  | none => .error (.unknownVariant text (all.map name))

/-- The mismatch of a value that stands where a choice holds nothing. -/
def Mismatch.notEmpty (found : Value) : Mismatch :=
  .ofValue found "unit"

/-- Reads one of several names, inside a larger value. There an object without members holds
nothing, too. -/
def readVariant (name : α → String) (all : List α) : Value → Except Mismatch α
  | .string text => findVariant name all text
  | .object [(text, value)] => do
    let found ← findVariant name all text
    match value with
    | .null | .object [] => return found
    | value => throw (.notEmpty value)
  | .object _ => .error (.wrongValue "map" "map with a single key")
  | value => .error (.ofValue value "string or map")

/-- What the text seen so far has wrong, when it is to be one of several names. -/
def watchVariant (name : α → String) (all : List α) (r : Reader) : Option (Fault Mismatch) :=
  match r.stack, r.mode with
  | [], .arrayStart => some (.malformed .noValue)
  | [], .numeral _ => some (.malformed .noValue)
  | [], .word _ _ => some (.malformed .noValue)
  | [], .colon _ text =>
    match findVariant name all text with
    | .ok _ => none
    | .error why => some (.mismatch why)
  | [.member _ _], .arrayStart => some (.mismatch (.notEmpty (.array [])))
  | [.member _ _], .objectStart => some (.mismatch (.notEmpty (.object [])))
  | [], .objectNext ((_, .null) :: _) => none
  | [], .objectNext ((_, value) :: _) => some (.mismatch (.notEmpty value))
  | [], .objectName _ => some (.malformed .noValue)
  | [], .done (.object []) => some (.malformed .noValue)
  | _, _ => none

/-- One of several names as a text of its own. -/
def variantForm (name : α → String) (all : List α) : Form Mismatch α :=
  ⟨watchVariant name all, readVariant name all⟩

end Registrar.Feed
