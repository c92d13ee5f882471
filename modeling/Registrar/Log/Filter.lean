import Registrar.Log.Directive
import Registrar.Log.Record

/-!
# Filters for the log

A filter decides which records and spans a log shows. It holds directives of two kinds. The *plain*
ones are about single records and spans: of those that cover a record the most specific one decides,
and a record that none covers is not shown. The *inner* ones are about spans by name or by fields:
what happens inside a span they cover is shown in their detail as well.

The first directives of a filter come from one text. There, fields without values make a directive
both plain and inner. A directive added later is only ever one of the two, plain where it can be.
-/

namespace Registrar.Log

/-- Whether a name starts like another. -/
def startsLike (name start : String) : Bool :=
  name.toList.take start.length = start.toList

namespace Directive

/-- Whether a target starts like the one of the directive. -/
def coversTarget (d : Directive) (target : String) : Bool :=
  d.target.all fun start => startsLike target start

/-- Whether the directive is about a record: the record has every field that is asked for. -/
def coversRecord (d : Directive) (r : Record) : Bool :=
  d.coversTarget r.target && d.demands.all fun demand => r.names.contains demand.name

/-- Whether the directive is about what happens inside a span. -/
def coversSpan (d : Directive) (s : Span) : Bool :=
  d.coversTarget s.target && d.span.all (· = s.name) &&
    d.demands.all fun demand => (s.fields.lookup demand.name).isSome

/-- What the directive asks a field to be; the last demand on a field counts. -/
def wanted? (d : Directive) (name : String) : Option Wanted :=
  (d.demands.filterMap fun demand =>
    if demand.name = name then demand.value else none).getLast?

/-- Whether the fields of a span are what the directive asks. They show natural numbers, which no
other kind of value equals. -/
def isMetBy (d : Directive) (s : Span) : Bool :=
  s.fields.all fun (name, text) =>
    match d.wanted? name with
    | none => true
    | some (.natural n) => toString n = text
    | some _ => false

/-- The length of the target; a directive without a target comes before every other. -/
def targetRank (d : Directive) : Nat :=
  match d.target with
  | none => 0
  | some target => target.utf8ByteSize + 1

/-- Whether a plain directive comes before another one that covers the same: the one with the longer
target is more specific, then the one that asks for more fields, then the one whose fields are later
in the alphabet. -/
def isLessSpecific (a b : Directive) : Bool :=
  if a.targetRank != b.targetRank then a.targetRank < b.targetRank
  else if a.demands.length != b.demands.length then a.demands.length < b.demands.length
  else a.demands.map (·.name) < b.demands.map (·.name)

end Directive

/-- Directives of one kind. -/
structure Rules where
  directives : List Directive := []
  /-- the most detail that any directive ever gave -/
  detail : Nat := 0
  deriving DecidableEq, Repr

namespace Rules

/-- Adds a directive, which takes the place of one about the same. -/
def add (rules : Rules) (d : Directive) : Rules :=
  ⟨rules.directives.filter (!·.sameSubject d) ++ [d], max rules.detail d.detail⟩

/-- Directives, each added to those before it. -/
def ofList (ds : List Directive) : Rules :=
  ds.foldl add {}

end Rules

/-- The most specific directive of several. -/
def decisive? (ds : List Directive) : Option Directive :=
  ds.foldl (fun best d =>
    match best with
    | some b => if d.isLessSpecific b then best else some d
    | none => some d) none

/-- A filter for the log. -/
structure Filter where
  plain : Rules := {}
  inner : Rules := {}
  deriving DecidableEq, Repr

namespace Filter

/-! ## Making a filter -/

/-- The filter of the directives of one text. Where there are none, errors are shown. -/
def ofDirectives (ds : List Directive) : Filter :=
  match ds with
  | [] => ⟨Rules.ofList [{ detail := Level.error.detail }], {}⟩
  | ds => ⟨Rules.ofList (ds.filter (·.isPlain)), Rules.ofList (ds.filter (·.isInner))⟩

/-- The filter that shows one level of detail everywhere. -/
def base (level : Level) : Filter :=
  ofDirectives [{ detail := level.detail }]

/-- The filter that a text spells: directives with commas between them, all of which must be right.
Between two commas there may be nothing. -/
def ofText (text : String) : Directive.Reading Filter := do
  let pieces := (Text.split ',' text.toList).filter (!·.isEmpty)
  return ofDirectives (← pieces.mapM fun piece => Directive.ofText (String.ofList piece))

/-- Adds a directive. -/
def add (filter : Filter) (d : Directive) : Filter :=
  if d.isPlain then { filter with plain := filter.plain.add d }
  else { filter with inner := filter.inner.add d }

/-! ## Deciding -/

/-- The most detail in which spans are looked at. A directive that asks for a value looks at all of
them, because values are only known later. -/
def spanDetail (filter : Filter) : Nat :=
  if filter.inner.directives.any fun d => d.demands.any (·.value.isSome) then fullDetail
  else max filter.plain.detail filter.inner.detail

/-- Whether a span is shown by the directives about single spans. The fields they ask for are not
looked for in spans. -/
def showsByTarget (filter : Filter) (s : Span) : Bool :=
  match decisive? (filter.plain.directives.filter (·.coversTarget s.target)) with
  | some d => s.level.detail ≤ d.detail
  | none => false

/-- Whether the log shows a span. -/
def showsSpan (filter : Filter) (s : Span) : Bool :=
  (filter.inner.directives.any (·.coversSpan s) && s.level.detail ≤ filter.spanDetail) ||
    filter.showsByTarget s

/-- The detail inside a span by the directives about it. -/
def detailInside (filter : Filter) (s : Span) : Nat :=
  ((filter.inner.directives.filter fun d => d.coversSpan s && d.isMetBy s).map (·.detail)).foldl
    max 0

/-- Whether a record is shown by the directives about single records. -/
def showsAlone (filter : Filter) (r : Record) : Bool :=
  match decisive? (filter.plain.directives.filter (·.coversRecord r)) with
  | some d => r.level.detail ≤ d.detail
  | none => false

/-- Whether the log shows a record, inside a span that is shown or outside. -/
def showsRecord (filter : Filter) (span : Option Span) (r : Record) : Bool :=
  filter.showsAlone r ||
    match span with
    | some s => r.level.detail ≤ filter.detailInside s
    | none => false

end Filter

end Registrar.Log
