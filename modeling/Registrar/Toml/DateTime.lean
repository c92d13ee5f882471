import Registrar.Binary64.Read

/-!
# TOML dates and times

A date, a time of day, or both, and then also how far the clock is from the universal one. Every
part has a fixed number of digits and lies within its own bounds; fractions of a second count to the
ninth digit. Between a date and a time stands a `T` of either case or a single space.

`DateTime.text` is the one spelling by which the settings know a date or a time.
-/

namespace Registrar.Toml

/-- A day of the calendar. -/
structure Date where
  year : Nat
  month : Nat
  day : Nat
  deriving DecidableEq, Repr

/-- A time of day. -/
structure Time where
  hour : Nat
  minute : Nat
  /-- a leap second is the sixtieth -/
  second : Nat
  nanosecond : Nat
  deriving DecidableEq, Repr

/-- How far a clock is from the universal one. -/
inductive Offset where
  | none
  /-- it is the universal one -/
  | universal
  /-- it is ahead by so many minutes, or behind -/
  | minutes (ahead : Int)
  deriving DecidableEq, Repr

/-- A date, a time of day, or both. -/
inductive DateTime where
  | date (date : Date)
  | time (time : Time)
  | both (date : Date) (time : Time) (offset : Offset)
  deriving DecidableEq, Repr

/-! ## Reading -/

/-- Takes a number of so many digits that lies between two bounds. -/
def fixed? (width least most : Nat) (cs : List Char) : Option (Nat × List Char) := do
  let digits := cs.take width
  guard (digits.length = width && digits.all Char.isDigit)
  let n := Binary64.ofDigits digits
  guard (least ≤ n && n ≤ most)
  return (n, cs.drop width)

/-- Takes one character. -/
def mark? (c : Char) : List Char → Option (List Char)
  | d :: rest => if d = c then some rest else none
  | [] => none

/-- Whether a year has a 29th of February. -/
def isLeapYear (year : Nat) : Bool :=
  year % 4 = 0 && (year % 100 != 0 || year % 400 = 0)

/-- How many days a month has. -/
def daysOfMonth (year month : Nat) : Nat :=
  if month = 2 then if isLeapYear year then 29 else 28
  else if month = 4 || month = 6 || month = 9 || month = 11 then 30
  else 31

/-- Takes a date. -/
def date? (cs : List Char) : Option (Date × List Char) := do
  let (year, cs) ← fixed? 4 0 9999 cs
  let (month, cs) ← fixed? 2 1 12 (← mark? '-' cs)
  let (day, cs) ← fixed? 2 1 (daysOfMonth year month) (← mark? '-' cs)
  return (⟨year, month, day⟩, cs)

/-- Takes a fraction of a second, if there is one, in nanoseconds; digits beyond the ninth are
dropped. -/
def nanosecond (cs : List Char) : Nat × List Char :=
  match cs with
  | '.' :: rest =>
    let digits := rest.takeWhile Char.isDigit
    if digits.isEmpty then (0, cs)
    else (Binary64.ofDigits ((digits ++ List.replicate 9 '0').take 9), rest.drop digits.length)
  | _ => (0, cs)

/-- Takes a time of day. -/
def time? (cs : List Char) : Option (Time × List Char) := do
  let (hour, cs) ← fixed? 2 0 23 cs
  let (minute, cs) ← fixed? 2 0 59 (← mark? ':' cs)
  let (second, cs) ← fixed? 2 0 60 (← mark? ':' cs)
  let (nanosecond, cs) := nanosecond cs
  return (⟨hour, minute, second, nanosecond⟩, cs)

/-- Takes an offset, if there is one. -/
def offset? (cs : List Char) : Option (Offset × List Char) :=
  match cs with
  | 'Z' :: rest | 'z' :: rest => some (.universal, rest)
  | '+' :: rest => shift 1 rest
  | '-' :: rest => shift (-1) rest
  | _ => some (.none, cs)
where
  shift (sign : Int) (cs : List Char) : Option (Offset × List Char) := do
    let (hours, cs) ← fixed? 2 0 23 cs
    let (minutes, cs) ← fixed? 2 0 59 (← mark? ':' cs)
    return (.minutes (sign * (hours * 60 + minutes)), cs)

/-- Whether the text goes on like a time: two digits and a colon. -/
def opensTime (cs : List Char) : Bool :=
  match cs with
  | a :: b :: ':' :: _ => a.isDigit && b.isDigit
  | _ => false

/-- Takes a date, a time of day, or both. -/
def dateTime? (cs : List Char) : Option (DateTime × List Char) :=
  if opensTime cs then do
    let (time, rest) ← time? cs
    return (.time time, rest)
  else do
    let (date, rest) ← date? cs
    match rest with
    | c :: behind =>
      if (c = 'T' || c = 't' || c = ' ') && opensTime behind then
        let (time, rest) ← time? behind
        let (offset, rest) ← offset? rest
        return (.both date time offset, rest)
      else return (.date date, rest)
    | [] => return (.date date, rest)

/-! ## Spelling -/

/-- A number with zeros in front, up to so many digits. -/
def padded (width n : Nat) : String :=
  let digits := toString n
  String.ofList (List.replicate (width - digits.length) '0') ++ digits

/-- A date as the settings know it. -/
def Date.text (d : Date) : String :=
  padded 4 d.year ++ "-" ++ padded 2 d.month ++ "-" ++ padded 2 d.day

/-- A time of day as the settings know it: a fraction ends in no zero. -/
def Time.text (t : Time) : String :=
  padded 2 t.hour ++ ":" ++ padded 2 t.minute ++ ":" ++ padded 2 t.second ++
    if t.nanosecond = 0 then ""
    else
      "." ++ String.ofList ((padded 9 t.nanosecond).toList.reverse.dropWhile (· = '0')).reverse

/-- An offset as the settings know it. -/
def Offset.text : Offset → String
  | .none => ""
  | .universal => "Z"
  | .minutes ahead =>
    (if ahead < 0 then "-" else "+") ++ padded 2 (ahead.natAbs / 60) ++ ":" ++
      padded 2 (ahead.natAbs % 60)

/-- A date or a time as the settings know it. -/
def DateTime.text : DateTime → String
  | .date d => d.text
  | .time t => t.text
  | .both d t offset => d.text ++ "T" ++ t.text ++ offset.text

/-- Blanks, fractions of a second and offsets are spelled in one way. -/
example : (dateTime? "1979-05-27 07:32:00.500-00:00".toList).map (·.1.text) =
    some "1979-05-27T07:32:00.5+00:00" := by
  decide +kernel

end Registrar.Toml
