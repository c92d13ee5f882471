/-!
# Values in one line

How messages show structured values in one line: named entries in braces behind a title, truth
values and alternatives as words, and what may be absent in parentheses behind a word of its own.
-/

namespace Registrar.Text.Described

/-- A name and a text. -/
def entry (name text : String) : String :=
  name ++ ": " ++ text

/-- Named texts in braces behind a title. -/
def braced (title : String) (entries : List String) : String :=
  title ++ " \x7b " ++ ", ".intercalate entries ++ " \x7d"

/-- A truth value in a word. -/
def word (b : Bool) : String :=
  if b then "true" else "false"

/-- A text that may be absent. -/
def optional : Option String → String
  | some text => "Some(" ++ text ++ ")"
  | none => "None"

/-- The name with its first letter raised. -/
def capitalized (name : String) : String :=
  match name.toList with
  | [] => ""
  | c :: rest => String.ofList (c.toUpper :: rest)

end Registrar.Text.Described
