import Registrar.Proofs.Feed.RoundTrip
import Registrar.Proofs.Json.Gaps

/-!
# Events that a feed rejects

An event is rejected under its own index, whether the reader comes to a byte that it does not take
or reads a value that means no event. What stands before the event is read as ever, and what stands
behind it is not looked at. Main statements: `rejects_of_stuck`, `rejects_of_refused` and
`read_of_rejects`; `read_of_accepts` is what happens otherwise.
-/

namespace Registrar.Feed

open Json (Reader Value Form)
open Text (Bytes)

variable {p next : Progress} {r : Reader} {b : UInt8} {before bytes : Bytes} {v : Value}
  {events : List Event}

/-- Among the bytes the event that comes next is rejected. -/
def Progress.Rejects (p : Progress) (bytes : Bytes) : Prop :=
  ∃ fault, bytes.foldlM Progress.advance p = .error ⟨p.events.length, fault⟩

/-- A byte is refused under the index of the event that comes next. -/
theorem Progress.Rejects.of_advance {e : FeedError} (h : p.advance b = .error e) (bytes : Bytes) :
    p.Rejects (b :: bytes) := by
  obtain ⟨fault, -, rfl⟩ := mapError_eq_error_iff.mp h
  refine ⟨fault, ?_⟩
  rw [List.foldlM_cons, h]
  rfl

theorem Progress.Rejects.cons (h : p.advance b = .ok next) (hevents : next.events = p.events)
    (hrest : next.Rejects bytes) : p.Rejects (b :: bytes) := by
  obtain ⟨fault, hfault⟩ := hrest
  refine ⟨fault, ?_⟩
  rw [List.foldlM_cons, h, ← hevents]
  exact hfault

/-! ## One event -/

/-- An event is rejected at the latest where the reader does not get on. -/
theorem rejects_of_stuck (h : r.Stuck bytes) (events : List Event) :
    Progress.Rejects ⟨events, r⟩ bytes := by
  obtain ⟨front, b, back, r', rfl, hrun, hmode, hnone⟩ := h
  induction front generalizing r with
  | nil =>
    obtain rfl : r = r' := Option.some.inj hrun
    cases hadvance : Progress.advance ⟨events, r⟩ b with
    | error e => exact .of_advance hadvance back
    | ok next =>
      obtain ⟨taken, htaken, -⟩ := Progress.advance_eq_ok_iff.mp hadvance
      cases hnone.symm.trans (Form.take?_of_advance htaken)
  | cons c front ih =>
    obtain ⟨middle, hmiddle, hrest⟩ := Option.bind_eq_some_iff.mp hrun
    cases hadvance : Progress.advance ⟨events, r⟩ c with
    | error e => exact .of_advance hadvance _
    | ok next =>
      obtain ⟨taken, htaken, hnext⟩ := Progress.advance_eq_ok_iff.mp hadvance
      obtain rfl : middle = taken :=
        Option.some.inj (hmiddle.symm.trans (Form.take?_of_advance htaken))
      rcases hnext with ⟨w, _, hdone, -⟩ | ⟨-, rfl⟩
      · -- behind a complete value the reader would stay there
        obtain ⟨stack, mode⟩ := middle
        obtain rfl : mode = .done w := hdone
        obtain ⟨rfl, -⟩ := Form.run_done hrest
        exact absurd rfl (hmode w)
      · exact .cons hadvance rfl (ih hrest)

/-- An event is rejected at the latest where its text is complete as the text of a value that means
no event. -/
theorem rejects_of_refused (hr : ∀ w, r.mode ≠ .done w) (h : Form.any.readFrom r bytes = .ok v)
    (hnumber : ∀ n, v ≠ .number n) (hrefused : ∀ e, Event.ofValue v ≠ .ok e)
    (events : List Event) : Progress.Rejects ⟨events, r⟩ bytes := by
  induction bytes generalizing r with
  | nil =>
    -- the end of a text completes numbers alone
    obtain ⟨settled, value, hsettle, -, hmode, hvalue⟩ := Form.close_eq_ok_iff.mp h
    obtain rfl : value = v := Except.ok.inj hvalue
    obtain ⟨number, rfl⟩ := Reader.exists_number_of_settleAtEnd hr hsettle hmode
    exact absurd rfl (hnumber number)
  | cons b bytes ih =>
    obtain ⟨taken, htaken, hnext⟩ := Form.readFrom_cons_eq_ok_iff.mp h
    cases hadvance : Progress.advance ⟨events, r⟩ b with
    | error e => exact .of_advance hadvance bytes
    | ok next =>
      obtain ⟨taken', htaken', hnext'⟩ := Progress.advance_eq_ok_iff.mp hadvance
      obtain rfl := Form.advance_unique htaken htaken'
      rcases hnext with ⟨value, hdone, hvalue, -⟩ | ⟨hmode, hrest⟩
      · obtain rfl : value = v := Except.ok.inj hvalue
        rcases hnext' with ⟨value', e, hdone', he, -⟩ | ⟨hmode', -⟩
        · obtain rfl : value = value' := Json.Mode.done.inj (hdone.symm.trans hdone')
          exact absurd he (hrefused e)
        · exact absurd hdone (hmode' value)
      · rcases hnext' with ⟨value', _, hdone', -⟩ | ⟨-, rfl⟩
        · exact absurd hdone' (hmode value')
        · exact .cons hadvance rfl (ih hmode hrest)

/-! ## Inside a feed -/

/-- A feed ends with the first event that is rejected. -/
theorem read_of_rejects (hbefore : read before = .ok events)
    (h : Progress.Rejects ⟨events.reverse, Reader.start⟩ bytes) (after : Bytes) :
    ∃ fault, read (before ++ bytes ++ after) = .error ⟨events.length, fault⟩ := by
  obtain ⟨fault, hfault⟩ := h
  rw [List.length_reverse] at hfault
  refine ⟨fault, ?_⟩
  rw [read, List.foldlM_append, List.foldlM_append, foldlM_advance_of_read hbefore]
  change (bytes.foldlM Progress.advance ⟨events.reverse, Reader.start⟩ >>= _) >>= _ = _
  rw [hfault]
  rfl

/-- An event that is accepted stands between the events before it and those behind it. -/
theorem read_of_accepts {e : Event} {after : Bytes} {more : List Event}
    (hbefore : read before = .ok events) (h : Event.form.read bytes = .ok e)
    (hafter : read after = .ok more) :
    read (before ++ bytes ++ after) = .ok (events ++ e :: more) := by
  have hstart : ∀ v, Reader.start.mode ≠ .done v := nofun
  have hevent : bytes.foldlM Progress.advance ⟨events.reverse, Reader.start⟩ =
      .ok ⟨e :: events.reverse, Reader.start⟩ := foldlM_advance_of_readFrom hstart h _
  have hrest : after.foldlM Progress.advance (Progress.start.behind (e :: events.reverse)) =
      .ok ⟨more.reverse ++ e :: events.reverse, Reader.start⟩ := by
    rw [Progress.foldlM_advance_behind, foldlM_advance_of_read hafter]
    rfl
  have hall : (before ++ bytes ++ after).foldlM Progress.advance Progress.start =
      .ok ⟨more.reverse ++ e :: events.reverse, Reader.start⟩ := by
    rw [List.foldlM_append, List.foldlM_append, foldlM_advance_of_read hbefore]
    change (bytes.foldlM Progress.advance ⟨events.reverse, Reader.start⟩ >>= _) = _
    rw [hevent]
    exact hrest
  rw [read, hall]
  change Progress.close ⟨more.reverse ++ e :: events.reverse, Reader.start⟩ = _
  rw [Progress.close, if_pos (isBetween_iff.mpr rfl)]
  simp

end Registrar.Feed
