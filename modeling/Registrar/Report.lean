import Registrar.Path

/-!
# Reports

What a run did with each generated file.
-/

namespace Registrar

/-- What became of one generated file. -/
inductive Outcome where
  /-- its content was written -/
  | written
  /-- it already held its content -/
  | unchanged
  /-- it differs from its content and was left alone -/
  | stale
  /-- its content was printed -/
  | printed
  deriving DecidableEq, Repr

/-- The generated files by what became of them. -/
structure Report where
  written : List Path := []
  unchanged : List Path := []
  stale : List Path := []
  printed : List Path := []
  deriving DecidableEq, Repr

namespace Report

/-- Adds one file after the earlier ones. -/
def add (r : Report) (path : Path) : Outcome → Report
  | .written => { r with written := r.written ++ [path] }
  | .unchanged => { r with unchanged := r.unchanged ++ [path] }
  | .stale => { r with stale := r.stale ++ [path] }
  | .printed => { r with printed := r.printed ++ [path] }

/-- How many files the report covers. -/
def total (r : Report) : Nat :=
  r.written.length + r.unchanged.length + r.stale.length + r.printed.length

/-- The report in one line. -/
def summary (r : Report) : String :=
  if r.printed.isEmpty then
    toString r.written.length ++ " written, " ++ toString r.unchanged.length ++ " unchanged" ++
      (if r.stale.isEmpty then "" else ", " ++ toString r.stale.length ++ " stale")
  else toString r.printed.length ++ " file(s) printed (dry run)"

end Report

/-- Says which generated files are stale. -/
def staleMessage (paths : List Path) : String :=
  toString paths.length ++ " generated file(s) out of date: " ++
    ", ".intercalate (paths.map Path.text)

end Registrar
