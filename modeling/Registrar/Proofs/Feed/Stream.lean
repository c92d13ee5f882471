import Registrar.Feed.Stream
import Registrar.Proofs.Feed.Watch

/-!
# Feeds after one another

A feed that was read to its end leaves nothing behind but its events: the reader stands where a new
one stands, since an event is complete at its last bracket (`foldlM_advance_of_read`). What comes
next is read as on its own, and only the count of the events tells the difference
(`Progress.foldlM_advance_behind`). Main statement: `read_append`.
-/

namespace Registrar

open Json (Reader Value Form Fault)
open Text (Bytes)

/-- A text that ends outside of an event's brackets is no event. -/
theorem Event.close_form_ne_ok {r : Reader} (hr : ∀ v, r.mode ≠ .done v) (e : Event) :
    Event.form.close r ≠ .ok e := by
  intro h
  obtain ⟨settled, value, hsettle, -, hmode, hdecode⟩ := Form.close_eq_ok_iff.mp h
  obtain ⟨number, rfl⟩ := Reader.exists_number_of_settleAtEnd hr hsettle hmode
  cases hdecode

namespace Feed

variable {p next : Progress} {b : UInt8} {bytes : Bytes} {events : List Event}

/-! ## Events as they end -/

/-- A byte completes an event, or the reader reads on. -/
theorem Progress.advance_eq_ok_iff :
    p.advance b = .ok next ↔ ∃ r, Event.form.advance p.reader b = .ok r ∧
      ((∃ v e, r.mode = .done v ∧ Event.form.decode v = .ok e ∧
          next = ⟨e :: p.events, Reader.start⟩) ∨
        (∀ v, r.mode ≠ .done v) ∧ next = ⟨p.events, r⟩) := by
  rw [advance, mapError_eq_ok_iff, bind_eq_ok_iff]
  refine exists_congr fun r => and_congr_right fun _ => ?_
  cases hmode : r.mode with
  | done value =>
    change ((Event.form.decode value).mapError Fault.mismatch >>= fun e =>
      Except.ok ⟨e :: p.events, Reader.start⟩) = .ok next ↔ _
    rw [bind_eq_ok_iff]
    refine ⟨?_, ?_⟩
    · rintro ⟨e, hdecode, hnext⟩
      exact .inl ⟨value, e, rfl, mapError_eq_ok_iff.mp hdecode, (Except.ok.inj hnext).symm⟩
    · rintro (⟨_, e, hvalue, hdecode, rfl⟩ | ⟨h, -⟩)
      · cases hvalue
        exact ⟨e, mapError_eq_ok_iff.mpr hdecode, rfl⟩
      · exact absurd rfl (h value)
  | _ =>
    refine ⟨fun h => .inr ⟨nofun, (Except.ok.inj h).symm⟩, ?_⟩
    rintro (⟨_, _, h, -⟩ | ⟨-, rfl⟩)
    · cases h
    · rfl

/-- No complete value stays with the reader. -/
theorem Progress.mode_ne_done_of_advance (h : p.advance b = .ok next) (v : Value) :
    next.reader.mode ≠ .done v := by
  obtain ⟨r, -, ⟨_, _, -, -, rfl⟩ | ⟨hr, rfl⟩⟩ := advance_eq_ok_iff.mp h
  · exact nofun
  · exact hr v

theorem Progress.mode_ne_done_of_foldlM (hp : ∀ v, p.reader.mode ≠ .done v)
    (h : bytes.foldlM advance p = .ok next) (v : Value) : next.reader.mode ≠ .done v := by
  induction bytes generalizing p with
  | nil =>
    cases h
    exact hp v
  | cons b bytes ih =>
    rw [List.foldlM_cons] at h
    obtain ⟨middle, hadvance, hrest⟩ := bind_eq_ok_iff.mp h
    exact ih (mode_ne_done_of_advance hadvance) hrest

theorem isBetween_iff {r : Reader} : isBetween r = true ↔ r = Reader.start := by
  obtain ⟨stack, mode⟩ := r
  cases stack <;> cases mode <;> simp [isBetween, Reader.start]

/-- A feed that was read leaves its events and a reader that stands where a new one stands. -/
theorem foldlM_advance_of_read (h : read bytes = .ok events) :
    bytes.foldlM Progress.advance Progress.start = .ok ⟨events.reverse, Reader.start⟩ := by
  obtain ⟨⟨before, r⟩, hrun, hclose⟩ := bind_eq_ok_iff.mp h
  rw [Progress.close] at hclose
  split_ifs at hclose with hbetween
  · obtain rfl : r = Reader.start := isBetween_iff.mp hbetween
    obtain rfl : before.reverse = events := Except.ok.inj hclose
    rw [List.reverse_reverse]
    exact hrun
  · -- the feed would have to end with an event that its last byte does not complete
    obtain ⟨e, he, -⟩ := bind_eq_ok_iff.mp hclose
    have hmode := Progress.mode_ne_done_of_foldlM (p := Progress.start) nofun hrun
    exact absurd (mapError_eq_ok_iff.mp he) (Event.close_form_ne_ok hmode e)

/-! ## Earlier events -/

/-- What was read, with complete events before it. -/
def Progress.behind (earlier : List Event) (p : Progress) : Progress :=
  ⟨p.events ++ earlier, p.reader⟩

/-- The error, when so many complete events come first. -/
def FeedError.behind (count : Nat) (e : FeedError) : FeedError :=
  ⟨count + e.index, e.fault⟩

theorem Progress.advance_behind (earlier : List Event) (p : Progress) (b : UInt8) :
    (p.behind earlier).advance b =
      ((p.advance b).map (·.behind earlier)).mapError (·.behind earlier.length) := by
  have hlength : (p.behind earlier).events.length = earlier.length + p.events.length := by
    rw [behind, List.length_append, Nat.add_comm]
  simp only [advance, hlength]
  change ((Event.form.advance p.reader b >>= _).mapError _) = _
  cases Event.form.advance p.reader b with
  | error fault => rfl
  | ok r =>
    cases hmode : r.mode with
    | done value =>
      simp only [bind, Except.bind, hmode]
      cases Event.form.decode value <;> rfl
    | _ =>
      simp only [bind, Except.bind, hmode]
      rfl

/-- Earlier events change nothing but the count. -/
theorem Progress.foldlM_advance_behind (earlier : List Event) (p : Progress) (bytes : Bytes) :
    bytes.foldlM advance (p.behind earlier) =
      ((bytes.foldlM advance p).map (·.behind earlier)).mapError (·.behind earlier.length) := by
  induction bytes generalizing p with
  | nil => rfl
  | cons b bytes ih =>
    rw [List.foldlM_cons, List.foldlM_cons, advance_behind]
    cases p.advance b with
    | error e => rfl
    | ok next => exact ih next

theorem Progress.close_behind (earlier : List Event) (p : Progress) :
    (p.behind earlier).close =
      (p.close.map (earlier.reverse ++ ·)).mapError (·.behind earlier.length) := by
  have hlength : (p.behind earlier).events.length = earlier.length + p.events.length := by
    rw [behind, List.length_append, Nat.add_comm]
  have hreader : (p.behind earlier).reader = p.reader := rfl
  simp only [close, hlength, hreader]
  split_ifs
  · simp [behind, Except.map, Except.mapError]
  · cases Event.form.close p.reader with
    | error fault => rfl
    | ok e => simp [behind, Except.map, Except.mapError, bind, Except.bind, pure, Except.pure]

/-- What follows a feed is read as it is read alone, and its events come behind those of the feed;
where it is refused, the fault is the same, and so its category and its message are. No seam is
needed, and nothing that follows changes how the feed was read. -/
theorem read_append {a : Bytes} (h : read a = .ok events) (b : Bytes) :
    read (a ++ b) =
      match read b with
      | .ok more => .ok (events ++ more)
      | .error e => .error ⟨events.length + e.index, e.fault⟩ := by
  have hrest : read (a ++ b) =
      b.foldlM Progress.advance (Progress.start.behind events.reverse) >>= Progress.close := by
    rw [read, List.foldlM_append, foldlM_advance_of_read h]
    rfl
  rw [hrest, Progress.foldlM_advance_behind, read]
  cases b.foldlM Progress.advance Progress.start with
  | error e => simp [Except.mapError, Except.map, bind, Except.bind, FeedError.behind]
  | ok last =>
    change (last.behind events.reverse).close = match last.close with
      | .ok more => .ok (events ++ more)
      | .error e => .error ⟨events.length + e.index, e.fault⟩
    rw [Progress.close_behind]
    cases last.close <;> simp [Except.mapError, Except.map, FeedError.behind]

/-- The report of a state, followed by itself, by a part of itself, and by what is no value. -/
theorem sampleReportText_append :
    read sampleReportText = .ok [sampleReported] ∧
      read (sampleReportText ++ sampleReportText) = .ok [sampleReported, sampleReported] ∧
        read (sampleReportText ++ sampleReportText.take 40) = .error ⟨1, .unfinished .string⟩ ∧
          read (sampleReportText ++ [0x5d]) = .error ⟨1, .malformed .noValue⟩ := by
  have hread : read sampleReportText = .ok [sampleReported] := by
    set_option maxRecDepth 20000 in rfl
  have hpart : read (sampleReportText.take 40) = .error ⟨0, .unfinished .string⟩ := by
    set_option maxRecDepth 20000 in rfl
  have hbracket : read [0x5d] = .error ⟨0, .malformed .noValue⟩ := rfl
  refine ⟨hread, ?_, ?_, ?_⟩
  · rw [read_append hread, hread]
    rfl
  · rw [read_append hread, hpart]
    rfl
  · rw [read_append hread, hbracket]
    rfl

end Feed

end Registrar
