import Registrar.Json.Numeral
import Registrar.Json.Spelling

/-!
# Reading JSON

A reader takes one byte at a time and holds the containers that are open, so that what it has seen
is known at every byte: values that are complete, names of members, the bracket just opened. A
numeral is the only value that does not show its own end; `settle` ends it before a byte that does
not belong to it, and `consume` then takes the byte.

At most 127 containers may be open at once. A `Form` adds what a kind of value refuses before its
text is complete, and how a complete value is understood.
-/

namespace Registrar.Json

open Registrar.Text (Bytes)

/-- A container that is open, with what stands before the value being read, last first. -/
inductive Frame where
  /-- an array and its earlier items -/
  | item (before : List Value)
  /-- an object, its earlier members, and the name of the member being read -/
  | member (before : List (String × Value)) (name : String)
  deriving Repr

/-- What a string is read for. -/
inductive Role where
  /-- it is a value -/
  | value
  /-- it names a member; the earlier members are given, last first -/
  | name (before : List (String × Value))
  deriving Repr

/-- What the reader expects inside the open containers. Lists stand last first. -/
inductive Mode where
  /-- a value -/
  | value
  /-- the first item or the end of an array -/
  | arrayStart
  /-- a comma or the end of an array -/
  | arrayNext (items : List Value)
  /-- the first name or the end of an object -/
  | objectStart
  /-- a name -/
  | objectName (members : List (String × Value))
  /-- the colon behind a name -/
  | colon (members : List (String × Value)) (name : String)
  /-- a comma or the end of an object -/
  | objectNext (members : List (String × Value))
  /-- the rest of a word -/
  | word (rest : Bytes) (value : Value)
  /-- more of a numeral, or its end -/
  | numeral (numeral : Numeral)
  /-- more of a string -/
  | text (role : Role) (spelling : Spelling)
  /-- nothing but blanks -/
  | done (value : Value)
  deriving Repr

/-- A reader between two bytes. -/
structure Reader where
  /-- the open containers, the innermost first -/
  stack : List Frame
  mode : Mode
  deriving Repr

/-- Whether the byte may stand between any two marks. -/
def isBlankByte (b : UInt8) : Bool :=
  b = 0x20 || b = 0x09 || b = 0x0a || b = 0x0d

namespace Reader

/-- A reader that has seen nothing. -/
def start : Reader :=
  ⟨[], .value⟩

/-- The most containers that may be open. -/
def maxDepth : Nat := 127

/-- Puts a complete value where it belongs. -/
def deliver (value : Value) : List Frame → Reader
  | [] => ⟨[], .done value⟩
  | .item before :: stack => ⟨stack, .arrayNext (value :: before)⟩
  | .member before name :: stack => ⟨stack, .objectNext ((name, value) :: before)⟩

/-- The bytes of `true` behind its first letter. -/
def trueRest : Bytes := [0x72, 0x75, 0x65]

/-- The bytes of `false` behind its first letter. -/
def falseRest : Bytes := [0x61, 0x6c, 0x73, 0x65]

/-- The bytes of `null` behind its first letter. -/
def nullRest : Bytes := [0x75, 0x6c, 0x6c]

/-- Takes the first byte of a value inside the containers. -/
def openValue (stack : List Frame) (b : UInt8) : Option Reader :=
  if b = 0x22 then some ⟨stack, .text .value Spelling.start⟩
  else if b = 0x5b then if stack.length < maxDepth then some ⟨stack, .arrayStart⟩ else none
  else if b = 0x7b then if stack.length < maxDepth then some ⟨stack, .objectStart⟩ else none
  else if b = 0x74 then some ⟨stack, .word trueRest (.boolean true)⟩
  else if b = 0x66 then some ⟨stack, .word falseRest (.boolean false)⟩
  else if b = 0x6e then some ⟨stack, .word nullRest .null⟩
  else (Numeral.start? b).map fun n => ⟨stack, .numeral n⟩

/-- Takes one byte; numerals must be settled before. -/
def consume (r : Reader) (b : UInt8) : Option Reader :=
  match r.mode with
  | .value => if isBlankByte b then some r else openValue r.stack b
  | .arrayStart =>
    if isBlankByte b then some r
    else if b = 0x5d then some (deliver (.array []) r.stack)
    else openValue (.item [] :: r.stack) b
  | .arrayNext items =>
    if isBlankByte b then some r
    else if b = 0x2c then some ⟨.item items :: r.stack, .value⟩
    else if b = 0x5d then some (deliver (.array items.reverse) r.stack)
    else none
  | .objectStart =>
    if isBlankByte b then some r
    else if b = 0x22 then some { r with mode := .text (.name []) Spelling.start }
    else if b = 0x7d then some (deliver (.object []) r.stack)
    else none
  | .objectName members =>
    if isBlankByte b then some r
    else if b = 0x22 then some { r with mode := .text (.name members) Spelling.start }
    else none
  | .colon members name =>
    if isBlankByte b then some r
    else if b = 0x3a then some ⟨.member members name :: r.stack, .value⟩
    else none
  | .objectNext members =>
    if isBlankByte b then some r
    else if b = 0x2c then some { r with mode := .objectName members }
    else if b = 0x7d then some (deliver (.object members.reverse) r.stack)
    else none
  | .word rest value =>
    match rest with
    | [] => none
    | [last] => if b = last then some (deliver value r.stack) else none
    | next :: more => if b = next then some { r with mode := .word more value } else none
  | .numeral n =>
    match n.extend b with
    | .more n => some { r with mode := .numeral n }
    | _ => none
  | .text role spelling =>
    match spelling.extend b with
    | .more spelling => some { r with mode := .text role spelling }
    | .finished text =>
      match role with
      | .value => some (deliver (.string text) r.stack)
      | .name members => some { r with mode := .colon members text }
    | .refused => none
  | .done _ => if isBlankByte b then some r else none

/-- Ends a numeral that the byte does not belong to. -/
def settle (r : Reader) (b : UInt8) : Option Reader :=
  match r.mode with
  | .numeral n =>
    match n.extend b with
    | .finished => n.value?.map fun value => deliver (.number value) r.stack
    | _ => some r
  | _ => some r

/-- Ends a numeral at the end of the text. -/
def settleAtEnd (r : Reader) : Option Reader :=
  match r.mode with
  | .numeral n =>
    if n.isComplete then n.value?.map fun value => deliver (.number value) r.stack else some r
  | _ => some r

/-! ## Refusals -/

/-- What is wrong with a byte that opens no value. -/
def openingFlaw (b : UInt8) : Flaw :=
  if b = 0x5b || b = 0x7b then .tooDeep else .noValue

/-- What is wrong with a byte that the reader does not take. -/
def flaw (r : Reader) (b : UInt8) : Flaw :=
  match r.mode with
  | .value =>
    match r.stack with
    | .item _ :: _ => if b = 0x5d then .danglingComma else openingFlaw b
    | _ => openingFlaw b
  | .arrayStart => openingFlaw b
  | .arrayNext _ => .noItemEnd
  | .objectStart => .noName
  | .objectName _ => if b = 0x7d then .danglingComma else .noName
  | .colon _ _ => .noColon
  | .objectNext _ => .noMemberEnd
  | .word _ _ => .noWord
  | .numeral _ => .badNumeral
  | .text _ spelling => spelling.flaw b
  | .done _ => .excess

/-- What a text ends inside of when it ends at the reader. -/
def openPart (r : Reader) : Part :=
  match r.mode with
  | .arrayStart | .arrayNext _ => .list
  | .objectStart | .colon _ _ | .objectNext _ => .object
  | .text _ _ => .string
  | .value | .objectName _ | .word _ _ | .numeral _ | .done _ => .value

end Reader

/-! ## Kinds of values -/

/-- A kind of value in JSON texts. -/
structure Form (ε α : Type) where
  /-- what is refused before the value is complete -/
  watch : Reader → Option (Fault ε)
  /-- what a complete value means -/
  decode : Value → Except ε α

namespace Form

variable {ε α : Type}

/-- Refuses what the kind of value refuses early. -/
def check (form : Form ε α) (r : Reader) : Except (Fault ε) Reader :=
  match form.watch r with
  | some fault => .error fault
  | none => .ok r

/-- Takes one byte of a value. -/
def advance (form : Form ε α) (r : Reader) (b : UInt8) : Except (Fault ε) Reader := do
  let some r := r.settle b | throw (.malformed .outOfRange)
  let r ← form.check r
  let some next := r.consume b | throw (.malformed (r.flaw b))
  form.check next

/-- What follows from the end of the text inside a value. -/
def close (form : Form ε α) (r : Reader) : Except (Fault ε) α := do
  let some r := r.settleAtEnd | throw (.malformed .outOfRange)
  let r ← form.check r
  match r.mode with
  | .done value => (form.decode value).mapError .mismatch
  | _ => throw (.unfinished r.openPart)

/-- What the text of one value means. The value is understood as soon as it is complete; only blanks
may follow it. -/
def readFrom (form : Form ε α) (r : Reader) : Bytes → Except (Fault ε) α
  | [] => form.close r
  | b :: rest => do
    let r ← form.advance r b
    match r.mode with
    | .done value =>
      let result ← (form.decode value).mapError .mismatch
      if rest.all isBlankByte then return result else throw (.malformed .excess)
    | _ => readFrom form r rest

/-- What the text of one value means. -/
def read (form : Form ε α) (bytes : Bytes) : Except (Fault ε) α :=
  form.readFrom Reader.start bytes

/-- The values themselves, all of them welcome. -/
def any : Form Empty Value :=
  ⟨fun _ => none, .ok⟩

end Form

/-- The value of a JSON text. -/
def Value.ofBytes? (bytes : Bytes) : Option Value :=
  (Form.any.read bytes).toOption

end Registrar.Json
