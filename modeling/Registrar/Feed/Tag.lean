import Registrar.Feed.Schema
import Registrar.Feed.Variant

/-!
# Values that carry a tag

A tagged value says with one of its parts what the rest of it is: an object with a member of a given
name, or an array with its first item. `Tag.split` takes that part out and leaves the rest for the
alternative that the tag names.

In a text the tag is looked at as soon as it can be: `Tag.watch` refuses a bad tag the moment it is
complete, a bracket in the place of the tag, and a second tag at its name, whatever may follow.
-/

namespace Registrar.Feed

open Registrar.Json (Value Reader Fault)

/-- How values of a kind are tagged. -/
structure Tag (α : Type) where
  /-- what messages call a value of the kind -/
  title : String
  /-- the name of the member that holds the tag -/
  name : String
  /-- the name of each alternative -/
  label : α → String
  /-- all alternatives -/
  all : List α

/-- What messages ask for in the place of a tag. -/
def tagExpectation : String :=
  "variant identifier"

namespace Tag

variable {α : Type}

/-- Reads a tag that must be a string. -/
def readLabel (tag : Tag α) : Value → Result α
  | .string text => findVariant tag.label tag.all text
  | value => .error (.ofValue value tagExpectation)

/-- Reads a tag that may be the position of the alternative instead of its name. -/
def readLabelOrPosition (tag : Tag α) : Value → Result α
  | .number (.integer (.ofNat n)) =>
    match tag.all[n]? with
    | some a => .ok a
    | none =>
      .error (.wrongValue (describe (.ofInt n))
        ("variant index 0 <= i < " ++ toString tag.all.length))
  | value => tag.readLabel value

/-- Takes the tag out of the members of an object. `found` is the tag seen so far. -/
def splitMembers (tag : Tag α) (read : Value → Result α) (found : Option α) :
    List (String × Value) → Result (α × List (String × Value))
  | [] =>
    match found with
    | some a => .ok (a, [])
    | none => .error (.missingField tag.name)
  | (name, value) :: members =>
    if name = tag.name then
      match found with
      | some _ => .error (.duplicateField tag.name)
      | none => do splitMembers tag read (some (← read value)) members
    else do
      let (a, others) ← splitMembers tag read found members
      return (a, (name, value) :: others)

/-- The alternative that a value names, and the rest of the value. -/
def split (tag : Tag α) (read : Value → Result α) : Value → Result (α × Value)
  | .object members => do
    let (a, others) ← tag.splitMembers read none members
    return (a, .object others)
  | .array (first :: items) => do return (← read first, .array items)
  | .array [] => .error (.missingField tag.name)
  | value => .error (.ofValue value tag.title)

/-- Refuses a value in the place of the tag. -/
def refuse (tag : Tag α) (value : Value) : Option (Fault Mismatch) :=
  match tag.readLabel value with
  | .ok _ => none
  | .error why => some (.mismatch why)

/-- What the text seen so far has wrong with the tag, or with the type of the whole value. -/
def watch (tag : Tag α) (r : Reader) : Option (Fault Mismatch) :=
  match r.stack, r.mode with
  | [], .done (.array _) => none
  | [], .done (.object _) => none
  | [], .done value => some (.mismatch (.ofValue value tag.title))
  | [], .colon members name =>
    if name = tag.name && members.any (·.1 = tag.name) then
      some (.mismatch (.duplicateField tag.name))
    else none
  | [], .objectNext ((name, value) :: _) => if name = tag.name then tag.refuse value else none
  | [], .arrayNext [value] => tag.refuse value
  | [.item []], .arrayStart => tag.refuse (.array [])
  | [.item []], .objectStart => tag.refuse (.object [])
  | [.member _ name], .arrayStart => if name = tag.name then tag.refuse (.array []) else none
  | [.member _ name], .objectStart => if name = tag.name then tag.refuse (.object []) else none
  | _, _ => none

end Tag

end Registrar.Feed
