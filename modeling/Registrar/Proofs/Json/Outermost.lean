import Mathlib.Tactic.SplitIfs
import Registrar.Json.Reader

/-!
# How the outermost value grows

Whatever a reader is inside of, the outermost value that it reads is complete up to some item or
member. `Reader.complete` is this part of it, and `Reader.name?` is the name of the member that
comes next, once it is known. `Reader.Grows` says all that one byte can do to the two. Main
statement: `Reader.grows_of_consume`.
-/

namespace Registrar.Json

/-- A value without items and members. -/
def Value.Bare : Value → Prop
  | .array items => items = []
  | .object members => members = []
  | _ => True

/-- The part of the container that is complete. -/
def Frame.complete : Frame → Value
  | .item before => .array before.reverse
  | .member before _ => .object before.reverse

/-- The name of the member that is read in the container. -/
def Frame.name? : Frame → Option String
  | .item _ => none
  | .member _ name => some name

/-- The part of the value that is complete, where no container is around it. -/
def Mode.complete : Mode → Value
  | .arrayStart => .array []
  | .arrayNext items => .array items.reverse
  | .objectStart => .object []
  | .objectName members => .object members.reverse
  | .colon members _ => .object members.reverse
  | .objectNext members => .object members.reverse
  | .text (.name members) _ => .object members.reverse
  | .word _ v => v
  | .done v => v
  | .value => .null
  | .numeral _ => .null
  | .text .value _ => .null

/-- The name of the member that comes next. -/
def Mode.name? : Mode → Option String
  | .colon _ name => some name
  | _ => none

/-- The value behind which nothing comes. -/
def Mode.done? : Mode → Option Value
  | .done v => some v
  | _ => none

namespace Reader

variable {r r' : Reader} {stack : List Frame} {mode mode' : Mode} {b : UInt8}

/-- The part of the outermost value that is complete. -/
def complete (r : Reader) : Value :=
  r.mode.done?.getD ((r.stack.getLast?.map Frame.complete).getD r.mode.complete)

/-- The name of the member of the outermost value that is read. -/
def name? (r : Reader) : Option String :=
  (r.stack.getLast?.map Frame.name?).getD r.mode.name?

/-- What one byte does to the outermost value. -/
inductive Grows (r : Reader) : Reader → Prop where
  /-- nothing, as far as it shows -/
  | same {r' : Reader} (hcomplete : r'.complete = r.complete) (hname : r'.name? = r.name?) :
    Grows r r'
  /-- it begins, or it is all there without items and members -/
  | bare {r' : Reader} (hbare : r'.complete.Bare) (hname : r'.name? = none) : Grows r r'
  /-- an item is complete -/
  | item {before : List Value} {v : Value} (hcomplete : r.complete = .array before.reverse) :
    Grows r ⟨[], .arrayNext (v :: before)⟩
  /-- the name of a member is complete -/
  | name {before : List (String × Value)} {name : String}
    (hcomplete : r.complete = .object before.reverse) : Grows r ⟨[], .colon before name⟩
  /-- a member is complete -/
  | member {before : List (String × Value)} {name : String} {v : Value}
    (hcomplete : r.complete = .object before.reverse) (hname : r.name? = some name) :
    Grows r ⟨[], .objectNext ((name, v) :: before)⟩

/-! ## One step -/

theorem Grows.refl (r : Reader) : r.Grows r :=
  .same rfl rfl

theorem complete_mk (h : mode.done? = none) : (⟨stack, mode⟩ : Reader).complete =
    (stack.getLast?.map Frame.complete).getD mode.complete := by
  rw [complete, h, Option.getD_none]

/-- Inside the same containers only the mode counts, and not even that where there are any. -/
theorem grows_mode (h : mode.done? = none) (h' : mode'.done? = none)
    (hcomplete : mode'.complete = mode.complete) (hname : mode'.name? = mode.name?) :
    Grows ⟨stack, mode⟩ ⟨stack, mode'⟩ := by
  refine .same ?_ ?_
  · rw [complete_mk h, complete_mk h', hcomplete]
  · rw [name?, name?, hname]

theorem grows_mode_of_bare (h : mode.done? = none) (h' : mode'.done? = none)
    (hbare : mode'.complete.Bare) (hname : mode'.name? = none) :
    Grows ⟨stack, mode⟩ ⟨stack, mode'⟩ := by
  cases hlast : stack.getLast? with
  | none =>
    refine .bare ?_ ?_
    · rw [complete_mk h', hlast]
      exact hbare
    · rw [name?, hlast]
      exact hname
  | some frame =>
    refine .same ?_ ?_
    · rw [complete_mk h, complete_mk h', hlast]
      rfl
    · rw [name?, name?, hlast]
      rfl

/-- A container that is opened further holds what it held before. -/
theorem grows_push {frame : Frame} (h : mode.done? = none) (h' : mode'.done? = none)
    (hcomplete : frame.complete = mode.complete) (hname : frame.name? = mode.name?) :
    Grows ⟨stack, mode⟩ ⟨frame :: stack, mode'⟩ := by
  cases hlast : stack.getLast? with
  | none =>
    refine .same ?_ ?_
    · rw [complete_mk h, complete_mk h', List.getLast?_cons, hlast]
      exact hcomplete
    · rw [name?, name?, List.getLast?_cons, hlast]
      exact hname
  | some last =>
    refine .same ?_ ?_
    · rw [complete_mk h, complete_mk h', List.getLast?_cons, hlast]
      rfl
    · rw [name?, name?, List.getLast?_cons, hlast]
      rfl

/-- A value that is put where it belongs is an item or a member of the outermost value, or part of
one, or that value itself. -/
theorem grows_deliver {v : Value} (h : mode.done? = none) (hv : v.Bare ∨ v = mode.complete)
    (hname : mode.name? = none) : Grows ⟨stack, mode⟩ (deliver v stack) := by
  have hcomplete : (⟨stack, mode⟩ : Reader).complete =
      (stack.getLast?.map Frame.complete).getD mode.complete := complete_mk h
  match stack with
  | [] =>
    rcases hv with hbare | rfl
    · exact .bare hbare rfl
    · exact .same hcomplete.symm hname.symm
  | [.item before] => exact .item hcomplete
  | [.member before name] => exact .member hcomplete rfl
  | .item before :: second :: stack => exact .same hcomplete.symm rfl
  | .member before name :: second :: stack => exact .same hcomplete.symm rfl

/-- What opens a value opens it inside the same containers, without items and members. -/
theorem openValue_eq_some (h : openValue stack b = some r') :
    r'.stack = stack ∧ r'.mode.done? = none ∧ r'.mode.complete.Bare ∧ r'.mode.name? = none := by
  rw [openValue] at h
  split_ifs at h
  · cases h
    exact ⟨rfl, rfl, trivial, rfl⟩
  · cases h
    exact ⟨rfl, rfl, rfl, rfl⟩
  · cases h
    exact ⟨rfl, rfl, rfl, rfl⟩
  · cases h
    exact ⟨rfl, rfl, trivial, rfl⟩
  · cases h
    exact ⟨rfl, rfl, trivial, rfl⟩
  · cases h
    exact ⟨rfl, rfl, trivial, rfl⟩
  · obtain ⟨n, -, rfl⟩ := Option.map_eq_some_iff.mp h
    exact ⟨rfl, rfl, trivial, rfl⟩

/-- One byte does no more to the outermost value than `Grows` says. -/
theorem grows_of_consume (h : r.consume b = some r') : r.Grows r' := by
  obtain ⟨stack, mode⟩ := r
  cases mode with
  | value =>
    dsimp only [consume] at h
    split_ifs at h
    · cases h
      exact .refl _
    · obtain ⟨stack', mode'⟩ := r'
      obtain ⟨rfl, hdone, hbare, hname⟩ := openValue_eq_some h
      exact grows_mode_of_bare rfl hdone hbare hname
  | arrayStart =>
    dsimp only [consume] at h
    split_ifs at h
    · cases h
      exact .refl _
    · cases h
      exact grows_deliver rfl (.inl rfl) rfl
    · obtain ⟨stack', mode'⟩ := r'
      obtain ⟨rfl, hdone, -⟩ := openValue_eq_some h
      exact grows_push rfl hdone rfl rfl
  | arrayNext items =>
    dsimp only [consume] at h
    split_ifs at h
    · cases h
      exact .refl _
    · cases h
      exact grows_push rfl rfl rfl rfl
    · cases h
      exact grows_deliver rfl (.inr rfl) rfl
  | objectStart =>
    dsimp only [consume] at h
    split_ifs at h
    · cases h
      exact .refl _
    · cases h
      exact grows_mode rfl rfl rfl rfl
    · cases h
      exact grows_deliver rfl (.inl rfl) rfl
  | objectName members =>
    dsimp only [consume] at h
    split_ifs at h
    · cases h
      exact .refl _
    · cases h
      exact grows_mode rfl rfl rfl rfl
  | colon members name =>
    dsimp only [consume] at h
    split_ifs at h
    · cases h
      exact .refl _
    · cases h
      exact grows_push rfl rfl rfl rfl
  | objectNext members =>
    dsimp only [consume] at h
    split_ifs at h
    · cases h
      exact .refl _
    · cases h
      exact grows_mode rfl rfl rfl rfl
    · cases h
      exact grows_deliver rfl (.inr rfl) rfl
  | word rest value =>
    match rest with
    | [] => cases h
    | [last] =>
      dsimp only [consume] at h
      split_ifs at h
      cases h
      exact grows_deliver rfl (.inr rfl) rfl
    | next :: second :: more =>
      dsimp only [consume] at h
      split_ifs at h
      cases h
      exact grows_mode rfl rfl rfl rfl
  | numeral n =>
    dsimp only [consume] at h
    split at h
    · cases h
      exact grows_mode rfl rfl rfl rfl
    · cases h
  | text role spelling =>
    dsimp only [consume] at h
    split at h
    · cases h
      cases role <;> exact grows_mode rfl rfl rfl rfl
    · -- the closing quote ends a value, or the name of a member of some object
      cases role with
      | value =>
        cases h
        exact grows_deliver rfl (.inl trivial) rfl
      | name members =>
        cases h
        cases hlast : stack.getLast? with
        | none =>
          obtain rfl := List.getLast?_eq_none_iff.mp hlast
          exact .name rfl
        | some frame =>
          refine .same ?_ ?_
          · rw [complete_mk rfl, complete_mk rfl, hlast]
            rfl
          · rw [name?, name?, hlast]
            rfl
    · cases h
  | done value =>
    dsimp only [consume] at h
    split_ifs at h
    cases h
    exact .refl _

/-- A number that ends is an item or a member of the outermost value, or part of one, or that value
itself. -/
theorem grows_of_settle (h : r.settle b = some r') : r.Grows r' := by
  obtain ⟨stack, mode⟩ := r
  cases mode with
  | numeral n =>
    dsimp only [settle] at h
    split at h
    · obtain ⟨m, -, rfl⟩ := Option.map_eq_some_iff.mp h
      exact grows_deliver rfl (.inl trivial) rfl
    · cases h
      exact .refl _
  | _ =>
    cases h
    exact .refl _

theorem grows_of_settleAtEnd (h : r.settleAtEnd = some r') : r.Grows r' := by
  obtain ⟨stack, mode⟩ := r
  cases mode with
  | numeral n =>
    dsimp only [settleAtEnd] at h
    split_ifs at h
    · obtain ⟨m, -, rfl⟩ := Option.map_eq_some_iff.mp h
      exact grows_deliver rfl (.inl trivial) rfl
    · cases h
      exact .refl _
  | _ =>
    cases h
    exact .refl _

end Reader

end Registrar.Json
