import Registrar.Log.Level
import Registrar.Path

/-!
# Log records

What the program reports about its own work: records with a message and fields, each from a named
part of the program, and the beginning and end of the span of work around them.
-/

namespace Registrar.Log

/-- One entry of the log. -/
structure Record where
  level : Level
  /-- the part of the program that reports -/
  target : String
  message : String
  /-- names and texts of further data, in their order -/
  fields : List (String × String)
  deriving DecidableEq, Repr

/-- The names of all data of a record, of which the message is one. -/
def Record.names (r : Record) : List String :=
  "message" :: r.fields.map (·.1)

/-- A piece of work that records belong to. -/
structure Span where
  level : Level
  target : String
  name : String
  fields : List (String × String)
  deriving DecidableEq, Repr

/-- A point in the life of a span. -/
inductive Moment where
  | new
  | enter
  | exit
  | close
  deriving DecidableEq, Repr

/-- The name of the point in log lines. -/
def Moment.name : Moment → String
  | .new => "new"
  | .enter => "enter"
  | .exit => "exit"
  | .close => "close"

/-- What happens: a record, inside a span or outside, or a point in the life of a span. -/
inductive Notice where
  | record (span : Option Span) (record : Record)
  | moment (moment : Moment) (span : Span)
  deriving DecidableEq, Repr

/-- A field that shows a path. -/
def pathField (name : String) (path : Path) : String × String :=
  (name, path.text)

/-- A field that shows a number. -/
def numberField (name : String) (n : Nat) : String × String :=
  (name, toString n)

end Registrar.Log
