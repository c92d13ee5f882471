import Registrar.Log.Plan

/-!
# Lines of the log

The text of a notice in each format. The level stands first, then the span around the record, the
part that reports, the message and the fields; the compact format puts the fields of the span behind
those of the record, and the pretty format gives the span a line of its own.

How long a span took is left out of its last line, together with what a line shows behind it: the
fields of the span in the compact format. In the pretty format the comma in front of the durations
stays.
-/

namespace Registrar.Log

/-- The spelling of a character of a message. Controls that a terminal acts upon are spelled by
their number. -/
def messageChar (c : Char) : List Char :=
  if c = '\x1b' || c = '\x07' || c = '\x08' || c = '\x0c' || c = '\x7f' then
    '\\' :: 'x' :: hexDigits c
  else if 0x80 ≤ c.toNat && c.toNat ≤ 0x9f then
    '\\' :: 'u' :: '\x7b' :: hexDigits c ++ ['\x7d']
  else [c]
where
  hexDigits (c : Char) : List Char := [Nat.digitChar (c.toNat / 16), Nat.digitChar (c.toNat % 16)]

/-- A message as lines show it. -/
def messageText (message : String) : String :=
  String.ofList (message.toList.flatMap messageChar)

/-- The level in five columns. -/
def levelColumn (level : Level) : String :=
  String.ofList (List.replicate (5 - level.label.length) ' ') ++ level.label

/-- The one thread of the program. -/
def threadName : String :=
  "ThreadId(1)"

/-- The one thread of the program, in columns. -/
def threadColumn : String :=
  "ThreadId(01) "

/-- Fields with blanks in front of them. -/
def fieldText (fields : List (String × String)) : String :=
  String.join (fields.map fun (name, text) => " " ++ name ++ "=" ++ text)

/-- Fields with commas in front of them. -/
def prettyFieldText (fields : List (String × String)) : String :=
  String.join (fields.map fun (name, text) => ", " ++ name ++ ": " ++ text)

/-- Fields in braces. -/
def bracedFieldText (fields : List (String × String)) : String :=
  "\x7b" ++ " ".intercalate (fields.map fun (name, text) => name ++ "=" ++ text) ++ "\x7d"

/-- What stands in front of the message. -/
def lineStart (plan : Plan) (record : Record) (span : String) : String :=
  levelColumn record.level ++ " " ++ (if plan.threadIds then threadColumn else "") ++ span ++
    (if plan.target then record.target ++ ": " else "") ++ messageText record.message

/-- The fields of a span in words. -/
def prettySpanFields (fields : List (String × String)) : String :=
  if fields.isEmpty then ""
  else " with " ++ ", ".intercalate (fields.map fun (name, text) => name ++ ": " ++ text)

/-- The text of a record inside a span, or outside. -/
def recordText (plan : Plan) (span : Option Span) (record : Record) : String :=
  match plan.format with
  | .full =>
    let around := match span with
      | some s => s.name ++ bracedFieldText s.fields ++ ": "
      | none => ""
    lineStart plan record around ++ fieldText record.fields ++ "\n"
  | .compact | .json =>
    match span with
    | some s =>
      lineStart plan record (s.name ++ ": ") ++ fieldText record.fields ++ fieldText s.fields ++
        "\n"
    | none => lineStart plan record "" ++ fieldText record.fields ++ "\n"
  | .pretty =>
    let thread := if plan.threadIds then "    on " ++ threadName ++ "\n" else ""
    let around := match span with
      | some s =>
        "    in " ++ s.target ++ "::" ++ s.name ++ prettySpanFields s.fields ++ "\n"
      | none => ""
    "  " ++ record.level.label ++ " " ++ (if plan.target then record.target ++ ": " else "") ++
      messageText record.message ++ prettyFieldText record.fields ++ "\n" ++ thread ++ around ++
      "\n"

/-- Whether a point in the life of a span is logged. -/
def logsMoment (e : SpanEvents) : Moment → Bool
  | .new => e.new
  | .enter => e.enter
  | .exit => e.exit
  | .close => e.close

/-- The text of a point in the life of a span. -/
def momentText (plan : Plan) (moment : Moment) (span : Span) : String :=
  let (shown, message) : Span × String :=
    match moment, plan.format with
    | .close, .compact | .close, .json => ({ span with fields := [] }, moment.name)
    | .close, .pretty => (span, moment.name ++ ",")
    | _, _ => (span, moment.name)
  recordText plan (some shown) ⟨span.level, span.target, message, []⟩

/-- The text of a notice, when the filter shows it. A span that is not shown leaves its records
without it. -/
def noticeText? (plan : Plan) (filter : Filter) : Notice → Option String
  | .record span record =>
    let shown := span.filter filter.showsSpan
    if filter.showsRecord shown record then some (recordText plan shown record) else none
  | .moment moment span =>
    if logsMoment plan.spanEvents moment && filter.showsSpan span then
      some (momentText plan moment span)
    else none

end Registrar.Log
