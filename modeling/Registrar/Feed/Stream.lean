import Registrar.Feed.Decode

/-!
# The feed

A feed is a sequence of events with blanks between them, or nothing between them where a bracket
shows the seam. `Feed.read` takes the bytes one at a time; an event counts as read as soon as its
last bracket is, so what follows cannot change it, and the first event that fails ends the feed.
-/

namespace Registrar.Feed

open Registrar.Text (Bytes)
open Registrar.Json (Fault Reader)

/-- Why a feed was refused: the first event that failed, counted from zero, and what it failed
on. -/
structure FeedError where
  index : Nat
  fault : Fault Mismatch

/-- A feed as far as it was read. -/
structure Progress where
  /-- the complete events, the last one first -/
  events : List Event
  /-- the reader of the event that comes next -/
  reader : Reader

/-- A feed of which nothing was read. -/
def Progress.start : Progress :=
  ⟨[], Reader.start⟩

/-- Whether the reader stands between two events. -/
def isBetween (r : Reader) : Bool :=
  match r.stack, r.mode with
  | [], .value => true
  | _, _ => false

/-- Takes one byte of a feed. -/
def Progress.advance (p : Progress) (b : UInt8) : Except FeedError Progress :=
  let step : Except (Fault Mismatch) Progress := do
    let r ← Event.form.advance p.reader b
    match r.mode with
    | .done value =>
      let event ← (Event.form.decode value).mapError .mismatch
      return ⟨event :: p.events, Reader.start⟩
    | _ => return ⟨p.events, r⟩
  step.mapError fun fault => ⟨p.events.length, fault⟩

/-- What follows from the end of the feed. -/
def Progress.close (p : Progress) : Except FeedError (List Event) :=
  if isBetween p.reader then .ok p.events.reverse
  else do
    let event ← (Event.form.close p.reader).mapError fun fault => ⟨p.events.length, fault⟩
    return (event :: p.events).reverse

/-- The events of a feed. -/
def read (bytes : Bytes) : Except FeedError (List Event) := do
  (← bytes.foldlM Progress.advance Progress.start).close

end Registrar.Feed
