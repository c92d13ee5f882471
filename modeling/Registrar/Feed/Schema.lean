import Registrar.Feed.Mismatch

/-!
# Records in JSON

A record is written either as an object or as an array of its fields in their order. `Fields` lists
the fields of a record once, with how each is read and what stands for it when it is absent, and
both readings follow from that list:

* in an object the members are read in the order they are written, the first fault wins, members
  that are no fields are passed over, and a field may not be given twice; absent fields come last;
* in an array only a trailing run of fields that have a default may be left out.
-/

namespace Registrar.Feed

open Registrar.Json (Value)

/-- What reading a value gives. -/
abbrev Result := Except Mismatch

/-- One field of a record. -/
structure Field (α : Type) where
  name : String
  read : Value → Result α
  /-- what stands for the field when it is absent -/
  default : Option α

/-- The fields of a record, in their order. -/
inductive Fields : List Type → Type 1 where
  | nil : Fields []
  | cons {α : Type} {αs : List Type} (field : Field α) (rest : Fields αs) : Fields (α :: αs)

/-- One value for each field. -/
def Tuple : List Type → Type
  | [] => Unit
  | α :: αs => α × Tuple αs

/-- The values of the fields seen so far. -/
def Slots : List Type → Type
  | [] => Unit
  | α :: αs => Option α × Slots αs

namespace Fields

/-- How many fields there are. -/
def count : {αs : List Type} → Fields αs → Nat
  | _, .nil => 0
  | _, .cons _ rest => rest.count + 1

/-- No field seen yet. -/
def noSlots : {αs : List Type} → Fields αs → Slots αs
  | _, .nil => ()
  | _, .cons _ rest => (none, rest.noSlots)

/-! ## Objects -/

/-- Takes one member of an object. -/
def store : {αs : List Type} → Fields αs → Slots αs → String → Value → Result (Slots αs)
  | _, .nil, slots, _, _ => .ok slots
  | _, .cons field rest, (slot, slots), name, value =>
    if name = field.name then
      match slot with
      | some _ => .error (.duplicateField name)
      | none => do return (some (← field.read value), slots)
    else do return (slot, ← rest.store slots name value)

/-- Takes the members of an object, in their order. -/
def storeAll {αs : List Type} (fields : Fields αs) (slots : Slots αs) :
    List (String × Value) → Result (Slots αs)
  | [] => .ok slots
  | (name, value) :: members => do
    let slots ← fields.store slots name value
    storeAll fields slots members

/-- Stands in for the fields that are absent. -/
def close : {αs : List Type} → Fields αs → Slots αs → Result (Tuple αs)
  | _, .nil, _ => .ok ()
  | _, .cons field rest, (slot, slots) =>
    match slot.or field.default with
    | some value => do return (value, ← rest.close slots)
    | none => .error (.missingField field.name)

/-- Reads the members of an object. -/
def readMembers {αs : List Type} (fields : Fields αs) (members : List (String × Value)) :
    Result (Tuple αs) := do
  fields.close (← fields.storeAll fields.noSlots members)

/-! ## Arrays -/

/-- Reads items in the order of the fields, and returns the items left over. `position` counts the
fields read before, and `whole` names what the array should have been. -/
def readLeading (whole : String) : {αs : List Type} → Fields αs → Nat → List Value →
    Result (Tuple αs × List Value)
  | _, .nil, _, items => .ok ((), items)
  | _, .cons field rest, position, item :: items => do
    let value ← field.read item
    let (values, items) ← rest.readLeading whole (position + 1) items
    return ((value, values), items)
  | _, .cons field rest, position, [] =>
    match field.default with
    | none => .error (.wrongLength position whole)
    | some value => do
      let (values, items) ← rest.readLeading whole (position + 1) []
      return ((value, values), items)

/-- Reads all items of an array. -/
def readItems {αs : List Type} (title : String) (fields : Fields αs) (items : List Value) :
    Result (Tuple αs) := do
  let whole := title ++ " with " ++ elements fields.count
  let (values, rest) ← fields.readLeading whole 0 items
  if rest.isEmpty then return values
  else throw (.wrongLength items.length (elements fields.count ++ " in sequence"))

end Fields

/-! ## Records -/

/-- A kind of record: what messages call it, its fields, and what they make up. -/
structure Schema (α : Type) where
  title : String
  types : List Type
  fields : Fields types
  make : Tuple types → α

namespace Schema

variable {α : Type}

/-- Reads a record. -/
def read (s : Schema α) : Value → Result α
  | .object members => s.make <$> s.fields.readMembers members
  | .array items => s.make <$> s.fields.readItems s.title items
  | value => .error (.ofValue value s.title)

end Schema

/-! ## Simple values -/

/-- Reads a string. -/
def readString : Value → Result String
  | .string s => .ok s
  | value => .error (.ofValue value "a string")

/-- Reads the items of an array in order; the first fault wins. -/
def readEach {α : Type} (read : Value → Result α) : List Value → Result (List α)
  | [] => .ok []
  | item :: items => do
    let first ← read item
    return first :: (← readEach read items)

/-- Reads an array of values of one kind. -/
def readList {α : Type} (read : Value → Result α) : Value → Result (List α)
  | .array items => readEach read items
  | value => .error (.ofValue value "a sequence")

/-- Reads an integer of 64 bits with a sign. -/
def readInt64 : Value → Result Int64
  | .number (.integer n) =>
    if Int64.minValue.toInt ≤ n ∧ n ≤ Int64.maxValue.toInt then .ok (Int64.ofInt n)
    else .error (.wrongValue (describe (.ofInt n)) "i64")
  | value => .error (.ofValue value "i64")

end Registrar.Feed
