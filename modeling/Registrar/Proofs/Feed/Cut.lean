import Registrar.Proofs.Feed.RoundTrip
import Registrar.Proofs.Json.Cut

/-!
# Feeds that end too early

A feed that was written from events may be cut at any byte. Between two events it is the feed of the
events before the cut; inside an event it is unfinished, whatever part of the event the cut falls
on, and the index of the error is the number of events before it. Main statement: `read_take_write`.
-/

namespace Registrar

open Json (Reader Value Form Frame isBlankByte)
open Text (Bytes)

/-! ## The end inside an event -/

/-- Nothing is refused of what two containers deep is complete. -/
theorem Feed.Tag.watch_deliver {α : Type} (tag : Feed.Tag α) (v : Value) (first second : Frame)
    (more : List Frame) : tag.watch (Reader.deliver v (first :: second :: more)) = none := by
  cases first <;> simp [watch, Reader.deliver]

namespace Event

variable {r : Reader} {e : Event} {rest : Bytes}

/-- Numbers stand in an event two containers deep at least. -/
theorem exists_frames_of_around {stack : List Frame} {number : Json.Number}
    (h : Frame.Around stack (.number number) e.toValue) :
    ∃ first second more, stack = first :: second :: more := by
  match stack with
  | [] => cases e <;> cases h
  | [.item before] =>
    obtain ⟨items, -, harray⟩ := h
    cases e <;> cases harray
  | [.member before name] =>
    obtain ⟨members, hmembers, hobject⟩ := h
    have hmem : (name, Value.number number) ∈ members := hmembers.subset (by simp)
    obtain rfl := Value.object.inj hobject
    cases e <;> simp [Occurrence.members, Location.toValue] at hmem
  | first :: second :: more => exact ⟨first, second, more, rfl⟩

/-- A text that ends where the rest of an event is missing is unfinished, and nothing worse. -/
theorem close_form_of_readFrom (hr : ∀ v, r.mode ≠ .done v)
    (h : Form.any.readFrom r rest = .ok e.toValue) :
    ∃ part, form.close r = .error (.unfinished part) := by
  have hwithin : r.Within e.toValue := Form.within_of_readFrom h
  obtain ⟨settled, hsettle, hsettled⟩ :=
    (Reader.readsWhole_of_readFrom (e.plain_toValue 0) h).settleAtEnd
  have hopen : form.watch settled = none ∧ ∀ v, settled.mode ≠ .done v := by
    rcases hsettled with rfl | ⟨n, number, hmode, rfl⟩
    · exact ⟨watch_form_eq_none hwithin e.ofValue_toValue, hr⟩
    · -- the numeral may have been cut, so its number need not be one of the event
      obtain ⟨stack, mode⟩ := r
      obtain rfl : mode = .numeral n := hmode
      obtain ⟨whole, haround⟩ := hwithin
      obtain ⟨first, second, more, rfl⟩ := exists_frames_of_around haround
      refine ⟨Feed.Tag.watch_deliver _ _ first second more, ?_⟩
      cases first <;> exact nofun
  have hcheck : form.check settled = .ok settled := Form.check_eq_ok_iff.mpr ⟨hopen.1, rfl⟩
  refine ⟨settled.openPart, ?_⟩
  rw [Form.close, hsettle]
  change (form.check settled >>= _) = _
  rw [hcheck]
  dsimp only [bind, Except.bind]
  split
  · next value hmode => exact absurd hmode (hopen.2 value)
  · rfl

theorem readFrom_any_encode (e : Event) :
    Form.any.readFrom Reader.start e.encode = .ok e.toValue :=
  Value.ofBytes?_eq_some_iff.mp (Value.ofBytes?_write (e.plain_toValue 122))

/-- The text of an event stands between the brackets of an object. -/
theorem exists_encode_eq (e : Event) : ∃ inner, e.encode = 0x7b :: (inner ++ [0x7d]) := by
  cases e <;> exact ⟨_, Reader.encode_write_object _⟩

/-- The text of an event ends with no blank. -/
theorem all_isBlankByte_of_suffix (h : rest <:+ e.encode) (hne : rest ≠ []) :
    rest.all isBlankByte = false := by
  obtain ⟨inner, hinner⟩ := e.exists_encode_eq
  obtain ⟨piece, hpiece⟩ := h
  have hlast : rest.getLast? = some 0x7d := by
    rw [← List.getLast?_append_of_ne_nil piece hne, hpiece, hinner, ← List.cons_append,
      List.getLast?_concat]
  exact List.all_eq_false.mpr ⟨0x7d, List.mem_of_getLast? hlast, by decide⟩

/-- A reader that has taken a part of the text of an event does not stand before an event. -/
theorem ne_start_of_run {piece : Bytes} (h : piece <+: e.encode) (hne : piece ≠ [])
    (hrun : Reader.start.Run piece r) : r ≠ Reader.start := by
  rintro rfl
  obtain ⟨inner, hinner⟩ := e.exists_encode_eq
  obtain ⟨b, piece, rfl⟩ := List.exists_cons_of_ne_nil hne
  rw [hinner, List.cons_prefix_cons] at h
  obtain ⟨rfl, -⟩ := h
  have hrest : Reader.Run ⟨[], .objectStart⟩ piece Reader.start := hrun
  cases hrest.eq_start

end Event

namespace Feed

variable {r : Reader} {piece rest : Bytes} {e : Event}

/-- A part of the text of an event completes no event in a feed. -/
theorem exists_run_of_readFrom (hrest : rest.all isBlankByte = false)
    (h : Event.form.readFrom r (piece ++ rest) = .ok e) (events : List Event) :
    ∃ r', r.Run piece r' ∧ piece.foldlM Progress.advance ⟨events, r⟩ = .ok ⟨events, r'⟩ := by
  induction piece generalizing r with
  | nil => exact ⟨r, rfl, rfl⟩
  | cons b piece ih =>
    obtain ⟨next, hadvance, hnext⟩ := Form.readFrom_cons_eq_ok_iff.mp h
    rcases hnext with ⟨_, -, -, hblank⟩ | ⟨hmode, hread⟩
    · simp [List.all_append, hrest] at hblank
    · obtain ⟨r', hrun, hfold⟩ := ih hread
      refine ⟨r', .cons (Form.take?_of_advance hadvance) hrun, ?_⟩
      have hstep : Progress.advance ⟨events, r⟩ b = .ok ⟨events, next⟩ :=
        Progress.advance_eq_ok_iff.mpr ⟨next, hadvance, .inr ⟨hmode, rfl⟩⟩
      rw [List.foldlM_cons, hstep]
      exact hfold

/-- Behind some events, a feed that ends inside the next one is unfinished there. -/
theorem foldlM_advance_of_cut (h : piece ++ rest = e.encode) (hpiece : piece ≠ [])
    (hrest : rest ≠ []) (events : List Event) :
    ∃ part, piece.foldlM Progress.advance ⟨events, Reader.start⟩ >>= Progress.close =
      .error ⟨events.length, .unfinished part⟩ := by
  have hblank : rest.all isBlankByte = false :=
    Event.all_isBlankByte_of_suffix (h ▸ List.suffix_append piece rest) hrest
  obtain ⟨r, hrun, hfold⟩ := exists_run_of_readFrom hblank (h ▸ e.read_encode) events
  have hmode := Progress.mode_ne_done_of_foldlM (p := ⟨events, Reader.start⟩) nofun hfold
  have hstart := Event.ne_start_of_run (h ▸ List.prefix_append piece rest) hpiece hrun
  have hvalue := Form.readFrom_of_run hblank (h ▸ e.readFrom_any_encode) hrun
  obtain ⟨part, hclose⟩ := Event.close_form_of_readFrom hmode hvalue
  refine ⟨part, ?_⟩
  rw [hfold]
  change Progress.close ⟨events, r⟩ = _
  rw [Progress.close, if_neg (mt isBetween_iff.mp hstart), hclose]
  rfl

/-! ## Cuts -/

/-- Where a feed is cut, and how many events are complete before the cut. -/
inductive Cut where
  /-- between two events, or at an end of the feed -/
  | between (complete : Nat)
  /-- inside the next event -/
  | inside (complete : Nat)
  deriving DecidableEq, Repr

/-- The cut, when one more event comes first. -/
def Cut.next : Cut → Cut
  | .between complete => .between (complete + 1)
  | .inside complete => .inside (complete + 1)

/-- Where the feed of events is cut behind so many bytes. -/
def cutAt : List (Blanks × Event) → Nat → Cut
  | [], _ => .between 0
  | (blanks, e) :: parts, bytes =>
    if bytes ≤ blanks.1.length then .between 0
    else if bytes < blanks.1.length + e.encode.length then .inside 0
    else (cutAt parts (bytes - (blanks.1.length + e.encode.length))).next

/-- What is left of the feed of events at a cut. -/
def LeavesAt (parts : List (Blanks × Event)) (bytes : Bytes) : Cut → Prop
  | .between k => ∃ blanks : Blanks, bytes = write (parts.take k) blanks
  | .inside k => ∃ blanks e piece rest, parts[k]? = some (blanks, e) ∧ piece ++ rest = e.encode ∧
      piece ≠ [] ∧ rest ≠ [] ∧ bytes = write (parts.take k) blanks ++ piece

theorem LeavesAt.cons {parts : List (Blanks × Event)} {bytes : Bytes} {cut : Cut}
    (h : LeavesAt parts bytes cut) (part : Blanks × Event) :
    LeavesAt (part :: parts) (part.1 ++ part.2.encode ++ bytes) cut.next := by
  cases cut with
  | between k =>
    obtain ⟨blanks, rfl⟩ := h
    exact ⟨blanks, by simp [write]⟩
  | inside k =>
    obtain ⟨blanks, e, piece, rest, hpart, hencode, hpiece, hrest, rfl⟩ := h
    exact ⟨blanks, e, piece, rest, hpart, hencode, hpiece, hrest, by simp [write]⟩

/-- The first bytes of blanks are blanks. -/
def Blanks.take (blanks : Blanks) (n : Nat) : Blanks :=
  ⟨blanks.1.take n, fun b hb => blanks.2 b (List.mem_of_mem_take hb)⟩

theorem leavesAt_cutAt (parts : List (Blanks × Event)) (last : Blanks) (n : Nat) :
    LeavesAt parts ((write parts last).take n) (cutAt parts n) := by
  induction parts generalizing n with
  | nil => exact ⟨last.take n, rfl⟩
  | cons part parts ih =>
    obtain ⟨blanks, e⟩ := part
    have hwrite : write ((blanks, e) :: parts) last =
        blanks.1 ++ (e.encode ++ write parts last) := by
      simp [write]
    rw [hwrite, cutAt]
    split_ifs with hblanks hevent
    · refine ⟨blanks.take n, ?_⟩
      rw [List.take_append_of_le_length hblanks]
      rfl
    · refine ⟨blanks, e, e.encode.take (n - blanks.1.length), e.encode.drop (n - blanks.1.length),
        rfl, List.take_append_drop .., ?_, ?_, ?_⟩
      · have hne : e.encode ≠ [] := by
          obtain ⟨inner, hinner⟩ := e.exists_encode_eq
          exact hinner ▸ List.cons_ne_nil _ _
        simp only [ne_eq, List.take_eq_nil_iff, hne, or_false]
        omega
      · rw [ne_eq, List.drop_eq_nil_iff]
        omega
      · rw [List.take_append, List.take_of_length_le (by omega),
          List.take_append_of_le_length (by omega)]
        rfl
    · have hrest := (ih (n - (blanks.1.length + e.encode.length))).cons (blanks, e)
      rw [List.take_append, List.take_of_length_le (by omega), List.take_append,
        List.take_of_length_le (by omega), ← List.append_assoc, Nat.sub_sub]
      exact hrest

/-- A feed that was written from events and is cut at any byte is read as the events before the cut
when it is cut between two events. When it is cut inside an event, it is unfinished, and the index
counts the events before the cut. -/
theorem read_take_write (parts : List (Blanks × Event)) (last : Blanks) (n : Nat) :
    ∃ part, read ((write parts last).take n) =
      match cutAt parts n with
      | .between complete => .ok ((parts.take complete).map Prod.snd)
      | .inside complete => .error ⟨complete, .unfinished part⟩ := by
  have hcut := leavesAt_cutAt parts last n
  have hread : ∀ k (blanks : Blanks) piece, read (write (parts.take k) blanks ++ piece) =
      (piece.foldlM Progress.advance ⟨((parts.take k).map Prod.snd).reverse, Reader.start⟩ >>=
        Progress.close) := by
    intro k blanks piece
    rw [read, List.foldlM_append, write, List.foldlM_append, Progress.start, foldlM_advance_parts,
      List.append_nil]
    change (List.foldlM _ _ blanks.1 >>= _) >>= _ = _
    rw [foldlM_advance_blanks]
    rfl
  cases hat : cutAt parts n with
  | between k =>
    rw [hat] at hcut
    obtain ⟨blanks, hbytes⟩ := hcut
    refine ⟨.value, ?_⟩
    rw [hbytes, ← List.append_nil (write _ _), hread]
    change Progress.close ⟨_, Reader.start⟩ = _
    rw [Progress.close, if_pos (isBetween_iff.mpr rfl), List.reverse_reverse]
  | inside k =>
    rw [hat] at hcut
    obtain ⟨blanks, e, piece, rest, hpart, hencode, hpiece, hrest, hbytes⟩ := hcut
    obtain ⟨part, hend⟩ := foldlM_advance_of_cut hencode hpiece hrest
      ((parts.take k).map Prod.snd).reverse
    refine ⟨part, ?_⟩
    rw [hbytes, hread, hend]
    have hlength : k < parts.length := (List.getElem?_eq_some_iff.mp hpart).1
    simp [List.length_take, Nat.min_eq_left (Nat.le_of_lt hlength)]

end Feed

end Registrar
