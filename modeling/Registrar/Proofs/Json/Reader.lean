import Mathlib.Tactic.SplitIfs
import Registrar.Json.Reader
import Registrar.Proofs.Result

/-!
# What a reader has seen

A reader between two bytes knows a part of the value that it reads. `Reader.Within r v` says that
this part is a part of `v`. It is preserved backwards by every step: if it holds after a byte, it
held before. So it holds, at every byte of a text, of the value that the text is read as.

A form may refuse a text before its value is complete. Where it refuses nothing of what a value that
it understands shows on the way, it means no more than `decode`. Main statement:
`Form.readFrom_eq_ok_iff`.
-/

namespace Registrar.Json

open Registrar.Text (Bytes)

/-- The containers that are open are parts of the whole `v` if what is read in them is `x`. -/
def Frame.Around : List Frame → Value → Value → Prop
  | [], x, v => x = v
  | .item before :: stack, x, v =>
    ∃ items, before.reverse ++ [x] <+: items ∧ Frame.Around stack (.array items) v
  | .member before name :: stack, x, v =>
    ∃ members, before.reverse ++ [(name, x)] <+: members ∧ Frame.Around stack (.object members) v

/-- Some array that begins with the items stands in the containers. -/
def Frame.AroundArray (stack : List Frame) (items : List Value) (v : Value) : Prop :=
  ∃ all, items <+: all ∧ Frame.Around stack (.array all) v

/-- Some object that begins with the members stands in the containers. -/
def Frame.AroundObject (stack : List Frame) (members : List (String × Value)) (v : Value) : Prop :=
  ∃ all, members <+: all ∧ Frame.Around stack (.object all) v

/-- What the reader has seen is a part of `v`. -/
def Reader.Within (r : Reader) (v : Value) : Prop :=
  match r.mode with
  | .value => ∃ x, Frame.Around r.stack x v
  | .arrayStart => Frame.AroundArray r.stack [] v
  | .arrayNext items => Frame.AroundArray r.stack items.reverse v
  | .objectStart => Frame.AroundObject r.stack [] v
  | .objectName members => Frame.AroundObject r.stack members.reverse v
  | .colon members name => ∃ x, Frame.AroundObject r.stack (members.reverse ++ [(name, x)]) v
  | .objectNext members => Frame.AroundObject r.stack members.reverse v
  | .word _ value => Frame.Around r.stack value v
  | .numeral _ => ∃ n, Frame.Around r.stack (.number n) v
  | .text .value _ => ∃ s, Frame.Around r.stack (.string s) v
  | .text (.name members) _ => Frame.AroundObject r.stack members.reverse v
  | .done value => value = v

namespace Frame

variable {stack : List Frame} {v : Value}

theorem AroundObject.mono {members more : List (String × Value)}
    (h : AroundObject stack more v) (hbegin : members <+: more) :
    AroundObject stack members v := by
  obtain ⟨all, hall, haround⟩ := h
  exact ⟨all, hbegin.trans hall, haround⟩

end Frame

namespace Reader

variable {r r' : Reader} {v : Value}

/-! ## One step -/

/-- A value that was put where it belongs is a part of the whole there. -/
theorem around_of_deliver {value : Value} {stack : List Frame}
    (h : (deliver value stack).Within v) : Frame.Around stack value v := by
  match stack with
  | [] => exact h
  | .item before :: stack =>
    obtain ⟨all, hall, haround⟩ := h
    rw [List.reverse_cons] at hall
    exact ⟨all, hall, haround⟩
  | .member before name :: stack =>
    obtain ⟨all, hall, haround⟩ := h
    rw [List.reverse_cons] at hall
    exact ⟨all, hall, haround⟩

theorem around_of_openValue {stack : List Frame} {b : UInt8}
    (h : openValue stack b = some r') (hv : r'.Within v) : ∃ x, Frame.Around stack x v := by
  rw [openValue] at h
  split_ifs at h
  · cases h
    obtain ⟨s, hs⟩ := hv
    exact ⟨_, hs⟩
  · cases h
    obtain ⟨all, -, haround⟩ := hv
    exact ⟨_, haround⟩
  · cases h
    obtain ⟨all, -, haround⟩ := hv
    exact ⟨_, haround⟩
  · cases h
    exact ⟨_, hv⟩
  · cases h
    exact ⟨_, hv⟩
  · cases h
    exact ⟨_, hv⟩
  · obtain ⟨n, -, rfl⟩ := Option.map_eq_some_iff.mp h
    obtain ⟨m, hm⟩ := hv
    exact ⟨_, hm⟩

/-- What is seen after a byte was taken was to be seen before. -/
theorem within_of_consume {b : UInt8} (h : r.consume b = some r') (hv : r'.Within v) :
    r.Within v := by
  obtain ⟨stack, mode⟩ := r
  cases mode with
  | value =>
    dsimp only [consume] at h
    split_ifs at h
    · cases h
      exact hv
    · exact around_of_openValue h hv
  | arrayStart =>
    dsimp only [consume] at h
    split_ifs at h
    · cases h
      exact hv
    · cases h
      exact ⟨[], List.prefix_rfl, around_of_deliver hv⟩
    · -- the byte opens the first item, and the array is the container around it
      obtain ⟨x, items, -, haround⟩ := around_of_openValue h hv
      exact ⟨items, List.nil_prefix, haround⟩
  | arrayNext items =>
    dsimp only [consume] at h
    split_ifs at h
    · cases h
      exact hv
    · cases h
      obtain ⟨x, all, hall, haround⟩ := hv
      exact ⟨all, (List.prefix_append _ _).trans hall, haround⟩
    · cases h
      exact ⟨items.reverse, List.prefix_rfl, around_of_deliver hv⟩
  | objectStart =>
    dsimp only [consume] at h
    split_ifs at h
    · cases h
      exact hv
    · cases h
      exact hv
    · cases h
      exact ⟨[], List.prefix_rfl, around_of_deliver hv⟩
  | objectName members =>
    dsimp only [consume] at h
    split_ifs at h
    · cases h
      exact hv
    · cases h
      exact hv
  | colon members name =>
    dsimp only [consume] at h
    split_ifs at h
    · cases h
      exact hv
    · cases h
      exact hv
  | objectNext members =>
    dsimp only [consume] at h
    split_ifs at h
    · cases h
      exact hv
    · cases h
      exact hv
    · cases h
      exact ⟨members.reverse, List.prefix_rfl, around_of_deliver hv⟩
  | word rest value =>
    match rest with
    | [] => cases h
    | [last] =>
      dsimp only [consume] at h
      split_ifs at h
      cases h
      exact around_of_deliver hv
    | next :: second :: more =>
      dsimp only [consume] at h
      split_ifs at h
      cases h
      exact hv
  | numeral n =>
    dsimp only [consume] at h
    split at h
    · cases h
      exact hv
    · cases h
  | text role spelling =>
    dsimp only [consume] at h
    split at h
    · cases h
      cases role <;> exact hv
    · -- the closing quote ends a value, or a name whose value is yet to come
      cases role with
      | value =>
        cases h
        exact ⟨_, around_of_deliver hv⟩
      | name members =>
        cases h
        obtain ⟨x, hobject⟩ := hv
        exact hobject.mono (List.prefix_append _ _)
    · cases h
  | done value =>
    dsimp only [consume] at h
    split_ifs at h
    cases h
    exact hv

/-- A number that ends was to be seen before its end. -/
theorem within_of_settle {b : UInt8} (h : r.settle b = some r') (hv : r'.Within v) :
    r.Within v := by
  obtain ⟨stack, mode⟩ := r
  cases mode with
  | numeral n =>
    dsimp only [settle] at h
    split at h
    · obtain ⟨m, -, rfl⟩ := Option.map_eq_some_iff.mp h
      exact ⟨m, around_of_deliver hv⟩
    · cases h
      exact hv
  | _ =>
    cases h
    exact hv

theorem within_of_settleAtEnd (h : r.settleAtEnd = some r') (hv : r'.Within v) : r.Within v := by
  obtain ⟨stack, mode⟩ := r
  cases mode with
  | numeral n =>
    dsimp only [settleAtEnd] at h
    split_ifs at h
    · obtain ⟨m, -, rfl⟩ := Option.map_eq_some_iff.mp h
      exact ⟨m, around_of_deliver hv⟩
    · cases h
      exact hv
  | _ =>
    cases h
    exact hv

/-- The only values that the end of a text completes are numbers. -/
theorem exists_number_of_settleAtEnd (hr : ∀ w, r.mode ≠ .done w) (h : r.settleAtEnd = some r')
    (hdone : r'.mode = .done v) : ∃ number, v = .number number := by
  obtain ⟨stack, mode⟩ := r
  cases mode with
  | numeral n =>
    dsimp only [settleAtEnd] at h
    split_ifs at h
    · obtain ⟨number, -, rfl⟩ := Option.map_eq_some_iff.mp h
      match stack with
      | [] => exact ⟨number, (Mode.done.inj hdone).symm⟩
      | .item _ :: _ => cases hdone
      | .member _ _ :: _ => cases hdone
    · cases h
      cases hdone
  | _ =>
    cases h
    exact absurd hdone (hr v)

end Reader

/-! ## A whole text -/

namespace Form

variable {ε α : Type} {form : Form ε α} {r r' : Reader} {v : Value} {a : α} {bytes : Bytes}

theorem check_eq_ok_iff : form.check r = .ok r' ↔ form.watch r = none ∧ r = r' := by
  rw [check]
  cases form.watch r with
  | some fault =>
    refine ⟨?_, ?_⟩
    · intro h
      cases h
    · rintro ⟨h, -⟩
      cases h
  | none => exact ⟨fun h => ⟨rfl, Except.ok.inj h⟩, fun h => congrArg _ h.2⟩

theorem advance_eq_ok_iff {b : UInt8} :
    form.advance r b = .ok r' ↔ ∃ settled, r.settle b = some settled ∧ form.watch settled = none ∧
      settled.consume b = some r' ∧ form.watch r' = none := by
  rw [advance]
  cases r.settle b with
  | none =>
    refine ⟨?_, ?_⟩
    · intro h
      cases h
    · rintro ⟨_, h, -⟩
      cases h
  | some settled =>
    change (form.check settled >>= _) = _ ↔ _
    simp only [bind_eq_ok_iff, check_eq_ok_iff]
    cases hconsume : settled.consume b with
    | none =>
      refine ⟨?_, ?_⟩
      · rintro ⟨_, ⟨-, rfl⟩, h⟩
        rw [hconsume] at h
        cases h
      · rintro ⟨_, hs, -, h, -⟩
        cases hs
        rw [hconsume] at h
        cases h
    | some next =>
      refine ⟨?_, ?_⟩
      · rintro ⟨_, ⟨hsettled, rfl⟩, h⟩
        rw [hconsume] at h
        obtain ⟨hnext, rfl⟩ := check_eq_ok_iff.mp h
        exact ⟨settled, rfl, hsettled, hconsume, hnext⟩
      · rintro ⟨_, hs, hsettled, h, hnext⟩
        cases hs
        refine ⟨settled, ⟨hsettled, rfl⟩, ?_⟩
        rw [h]
        exact check_eq_ok_iff.mpr ⟨hnext, rfl⟩

/-- What is refused when a byte ends a number is what the byte is refused with. -/
theorem advance_of_refused {b : UInt8} {fault : Fault ε} (hsettle : r.settle b = some r')
    (hwatch : form.watch r' = some fault) : form.advance r b = .error fault := by
  rw [advance, hsettle]
  simp only [check, hwatch, error_bind]

/-- A byte that is taken leads to the reader behind it, unless that is refused. -/
theorem advance_of_taken {b : UInt8} {settled : Reader} (hsettle : r.settle b = some settled)
    (hwatch : form.watch settled = none) (hconsume : settled.consume b = some r') :
    form.advance r b = form.check r' := by
  rw [advance, hsettle]
  simp only [check, hwatch, ok_bind, hconsume]

theorem close_of_done {settled : Reader} (hsettle : r.settleAtEnd = some settled)
    (hmode : settled.mode = .done v) :
    form.close r = (form.check settled >>= fun _ => (form.decode v).mapError .mismatch) := by
  rw [close, hsettle]
  cases hcheck : form.check settled with
  | error fault => simp only [hcheck, error_bind]
  | ok next =>
    obtain ⟨-, rfl⟩ := check_eq_ok_iff.mp hcheck
    simp only [hcheck, ok_bind, hmode]

/-- A value that is complete is understood, if blanks follow. -/
theorem readFrom_cons_of_done {b : UInt8} (hadvance : form.advance r b = .ok r')
    (hmode : r'.mode = .done v) (hblank : bytes.all isBlankByte) :
    form.readFrom r (b :: bytes) = (form.decode v).mapError .mismatch := by
  rw [readFrom, hadvance, ok_bind, hmode]
  cases hdecode : form.decode v with
  | error why =>
    simp only [hdecode]
    rfl
  | ok result =>
    simp only [hdecode]
    exact if_pos hblank

theorem readFrom_cons_of_ne_done {b : UInt8} (hadvance : form.advance r b = .ok r')
    (hmode : ∀ value, r'.mode ≠ .done value) :
    form.readFrom r (b :: bytes) = form.readFrom r' bytes := by
  rw [readFrom, hadvance, ok_bind]
  cases hbehind : r'.mode with
  | done value => exact absurd hbehind (hmode value)
  | _ => rfl

theorem close_eq_ok_iff :
    form.close r = .ok a ↔ ∃ settled value, r.settleAtEnd = some settled ∧
      form.watch settled = none ∧ settled.mode = .done value ∧ form.decode value = .ok a := by
  rw [close]
  cases r.settleAtEnd with
  | none =>
    refine ⟨?_, ?_⟩
    · intro h
      cases h
    · rintro ⟨_, _, h, -⟩
      cases h
  | some settled =>
    change (form.check settled >>= _) = _ ↔ _
    simp only [bind_eq_ok_iff, check_eq_ok_iff]
    refine ⟨?_, ?_⟩
    · rintro ⟨_, ⟨hsettled, rfl⟩, h⟩
      cases hmode : settled.mode with
      | done value =>
        rw [hmode] at h
        exact ⟨settled, value, rfl, hsettled, hmode, mapError_eq_ok_iff.mp h⟩
      | _ =>
        rw [hmode] at h
        cases h
    · rintro ⟨_, value, hs, hsettled, hmode, h⟩
      cases hs
      refine ⟨settled, ⟨hsettled, rfl⟩, ?_⟩
      rw [hmode]
      exact mapError_eq_ok_iff.mpr h

/-- After a byte the value is complete and blanks follow, or it is read further. -/
theorem readFrom_cons_eq_ok_iff {b : UInt8} :
    form.readFrom r (b :: bytes) = .ok a ↔ ∃ next, form.advance r b = .ok next ∧
      ((∃ value, next.mode = .done value ∧ form.decode value = .ok a ∧ bytes.all isBlankByte) ∨
        (∀ value, next.mode ≠ .done value) ∧ form.readFrom next bytes = .ok a) := by
  rw [readFrom, bind_eq_ok_iff]
  refine exists_congr fun next => and_congr_right fun _ => ?_
  cases hmode : next.mode with
  | done value =>
    change ((form.decode value).mapError Fault.mismatch >>= fun result =>
      if bytes.all isBlankByte then Except.ok result else .error (.malformed .excess)) = .ok a ↔ _
    rw [bind_eq_ok_iff]
    refine ⟨?_, ?_⟩
    · rintro ⟨result, hdecode, h⟩
      split_ifs at h with hblank
      cases h
      exact .inl ⟨value, rfl, mapError_eq_ok_iff.mp hdecode, hblank⟩
    · rintro (⟨_, hvalue, hdecode, hblank⟩ | ⟨h, -⟩)
      · cases hvalue
        exact ⟨a, mapError_eq_ok_iff.mpr hdecode, if_pos hblank⟩
      · exact absurd rfl (h value)
  | _ =>
    refine ⟨?_, ?_⟩
    · intro h
      exact .inr ⟨nofun, h⟩
    · rintro (⟨_, h, -⟩ | ⟨-, h⟩)
      · cases h
      · exact h

/-- A reader with a complete value has seen no other. -/
theorem within_of_mode_eq_done (h : r.mode = .done v) : r.Within v := by
  rw [Reader.Within, h]

/-- What a reader has seen is a part of the value that the text is read as. -/
theorem within_of_readFrom (h : any.readFrom r bytes = .ok v) : r.Within v := by
  induction bytes generalizing r with
  | nil =>
    obtain ⟨settled, value, hsettle, -, hmode, hvalue⟩ := close_eq_ok_iff.mp h
    obtain rfl : value = v := Except.ok.inj hvalue
    exact Reader.within_of_settleAtEnd hsettle (within_of_mode_eq_done hmode)
  | cons b bytes ih =>
    obtain ⟨next, hadvance, hnext⟩ := readFrom_cons_eq_ok_iff.mp h
    obtain ⟨settled, hsettle, -, hconsume, -⟩ := advance_eq_ok_iff.mp hadvance
    refine Reader.within_of_settle hsettle (Reader.within_of_consume hconsume ?_)
    rcases hnext with ⟨value, hmode, hvalue, -⟩ | ⟨-, hread⟩
    · obtain rfl : value = v := Except.ok.inj hvalue
      exact within_of_mode_eq_done hmode
    · exact ih hread

/-- A form may refuse a byte, but where it stands behind the byte no form decides. -/
theorem advance_unique {β δ : Type} {other : Form δ β} {b : UInt8} {next next' : Reader}
    (h : form.advance r b = .ok next) (h' : other.advance r b = .ok next') : next = next' := by
  obtain ⟨settled, hsettle, -, hconsume, -⟩ := advance_eq_ok_iff.mp h
  obtain ⟨settled', hsettle', -, hconsume', -⟩ := advance_eq_ok_iff.mp h'
  obtain rfl : settled = settled' := Option.some.inj (hsettle.symm.trans hsettle')
  exact Option.some.inj (hconsume.symm.trans hconsume')

/-- Whatever a form refuses early, what it reads is the meaning of the value of the text. -/
theorem decode_of_readFrom (h : any.readFrom r bytes = .ok v)
    (hread : form.readFrom r bytes = .ok a) : form.decode v = .ok a := by
  induction bytes generalizing r with
  | nil =>
    obtain ⟨settled, value, hsettle, -, hmode, hvalue⟩ := close_eq_ok_iff.mp h
    obtain rfl : value = v := Except.ok.inj hvalue
    obtain ⟨settled', value', hsettle', -, hmode', hdecode⟩ := close_eq_ok_iff.mp hread
    obtain rfl : settled = settled' := Option.some.inj (hsettle.symm.trans hsettle')
    obtain rfl : value = value' := Mode.done.inj (hmode.symm.trans hmode')
    exact hdecode
  | cons b bytes ih =>
    obtain ⟨next, hadvance, hnext⟩ := readFrom_cons_eq_ok_iff.mp h
    obtain ⟨next', hadvance', hnext'⟩ := readFrom_cons_eq_ok_iff.mp hread
    obtain rfl := advance_unique hadvance hadvance'
    -- both are complete behind the byte, or both read on
    rcases hnext with ⟨value, hmode, hvalue, -⟩ | ⟨hmode, hrest⟩
    · obtain rfl : value = v := Except.ok.inj hvalue
      rcases hnext' with ⟨value', hmode', hdecode, -⟩ | ⟨hmode', -⟩
      · obtain rfl : value = value' := Mode.done.inj (hmode.symm.trans hmode')
        exact hdecode
      · exact absurd hmode (hmode' value)
    · rcases hnext' with ⟨value', hmode', -⟩ | ⟨-, hread'⟩
      · exact absurd hmode' (hmode value')
      · exact ih hrest hread'

/-- A value that a form understands is read from its text, when the form refuses nothing of what the
value shows on the way. -/
theorem readFrom_of_decode (hwatch : ∀ r, r.Within v → form.watch r = none)
    (h : any.readFrom r bytes = .ok v) (hdecode : form.decode v = .ok a) :
    form.readFrom r bytes = .ok a := by
  induction bytes generalizing r with
  | nil =>
    obtain ⟨settled, value, hsettle, -, hmode, hvalue⟩ := close_eq_ok_iff.mp h
    obtain rfl : value = v := Except.ok.inj hvalue
    exact close_eq_ok_iff.mpr
      ⟨settled, value, hsettle, hwatch settled (within_of_mode_eq_done hmode), hmode, hdecode⟩
  | cons b bytes ih =>
    obtain ⟨next, hadvance, hnext⟩ := readFrom_cons_eq_ok_iff.mp h
    obtain ⟨settled, hsettle, -, hconsume, -⟩ := advance_eq_ok_iff.mp hadvance
    have hwithin : next.Within v := by
      rcases hnext with ⟨value, hmode, hvalue, -⟩ | ⟨-, hrest⟩
      · obtain rfl : value = v := Except.ok.inj hvalue
        exact within_of_mode_eq_done hmode
      · exact within_of_readFrom hrest
    have hadvance' : form.advance r b = .ok next :=
      advance_eq_ok_iff.mpr ⟨settled, hsettle,
        hwatch settled (Reader.within_of_consume hconsume hwithin), hconsume, hwatch next hwithin⟩
    refine readFrom_cons_eq_ok_iff.mpr ⟨next, hadvance', ?_⟩
    rcases hnext with ⟨value, hmode, hvalue, hblank⟩ | ⟨hmode, hrest⟩
    · obtain rfl : value = v := Except.ok.inj hvalue
      exact .inl ⟨value, hmode, hdecode, hblank⟩
    · exact .inr ⟨hmode, ih hrest⟩

/-- A form that refuses nothing on the way to a value that it understands reads a text as it
understands the value. -/
theorem readFrom_eq_ok_iff
    (hwatch : ∀ r v a, r.Within v → form.decode v = .ok a → form.watch r = none)
    (h : any.readFrom r bytes = .ok v) : form.readFrom r bytes = .ok a ↔ form.decode v = .ok a :=
  ⟨decode_of_readFrom h, fun hdecode =>
    readFrom_of_decode (fun r hr => hwatch r v a hr hdecode) h hdecode⟩

end Form

end Registrar.Json
