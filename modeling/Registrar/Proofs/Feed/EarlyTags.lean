import Registrar.Proofs.Feed.Tags
import Registrar.Proofs.Json.Outermost
import Registrar.Proofs.Json.Reader

/-!
# Early refusals say what the whole value says

The values in the place of the tag decide, in their order, whether a value can be split and with
what it is refused otherwise. A text is refused as soon as they do. On the way the reader is
`Sound`: it has seen no tag yet, or one good tag and not the name of another. A byte keeps it sound,
or what `Tag.watch` then has to say is what `Tag.split` says of the whole value. So a text means
what its value means when tags are names, in its faults too. Main statement: `Tag.readFrom_eq`.
-/

namespace Registrar.Feed.Tag

open Registrar.Json (Value Reader Form Fault)

variable {α : Type} {tag : Tag α} {read : Value → Result α} {r r' : Reader} {v w : Value}

/-! ## What stands in the place of the tag -/

/-- The values in the place of the tag, in their order. -/
def carried (tag : Tag α) : Value → List Value
  | .object members => given tag.name members
  | .array items => items.take 1
  | _ => []

/-- What stands beside the place of the tag. -/
def beside (tag : Tag α) : Value → Value
  | .object members => .object (others tag.name members)
  | .array items => .array (items.drop 1)
  | v => v

/-- Reads the only value in the place of the tag. -/
def pick (tag : Tag α) (read : Value → Result α) : List Value → Result α
  | [] => .error (.missingField tag.name)
  | [v] => read v
  | v :: _ :: _ => read v >>= fun _ => .error (.duplicateField tag.name)

theorem splitMembers_some (a : α) (members : List (String × Value)) :
    tag.splitMembers read (some a) members =
      if given tag.name members = [] then .ok (a, others tag.name members)
      else .error (.duplicateField tag.name) := by
  induction members with
  | nil => rfl
  | cons member members ih =>
    obtain ⟨name, v⟩ := member
    by_cases hname : name = tag.name
    · subst hname
      rw [splitMembers_cons_self_of_some, given_cons_self, if_neg (List.cons_ne_nil _ _)]
    · rw [splitMembers_cons_of_ne hname, ih, given_cons_of_ne hname, others_cons_of_ne hname]
      split_ifs
      · rfl
      · rfl

theorem splitMembers_none (members : List (String × Value)) :
    tag.splitMembers read none members =
      (fun a => (a, others tag.name members)) <$> tag.pick read (given tag.name members) := by
  induction members with
  | nil => rfl
  | cons member members ih =>
    obtain ⟨name, v⟩ := member
    by_cases hname : name = tag.name
    · -- the tag is found, and the others of its name are too many
      subst hname
      rw [splitMembers_cons_self, given_cons_self, others_cons_self]
      simp only [splitMembers_some]
      cases given tag.name members <;> cases hv : read v <;> simp only [pick, hv] <;> rfl
    · rw [splitMembers_cons_of_ne hname, ih, given_cons_of_ne hname, others_cons_of_ne hname]
      cases tag.pick read (given tag.name members) <;> rfl

/-- The values in the place of the tag decide how a value is split, and its type where there are
none. -/
theorem split_eq (hv : (∃ members, v = .object members) ∨ ∃ items, v = .array items) :
    tag.split read v = (fun a => (a, tag.beside v)) <$> tag.pick read (tag.carried v) := by
  rcases hv with ⟨members, rfl⟩ | ⟨items, rfl⟩
  · rw [split, splitMembers_none, carried]
    cases tag.pick read (given tag.name members) <;> rfl
  · cases items with
    | nil => rfl
    | cons first items =>
      rw [split]
      cases hfirst : read first <;> simp only [carried, List.take_succ_cons, List.take_zero, pick,
        hfirst] <;> rfl

theorem container_of_carried {more : List Value} (h : tag.carried v = w :: more) :
    (∃ members, v = .object members) ∨ ∃ items, v = .array items := by
  cases v with
  | object members => exact .inl ⟨members, rfl⟩
  | array items => exact .inr ⟨items, rfl⟩
  | null | boolean | number | string => cases h

/-- The first value in the place of the tag is refused whatever comes behind it. -/
theorem split_of_carried_cons {more : List Value} {why : Mismatch}
    (h : tag.carried v = w :: more) (hw : read w = .error why) :
    tag.split read v = .error why := by
  rw [split_eq (container_of_carried h), h]
  cases more <;> simp only [pick, hw] <;> rfl

/-- A second value in the place of the tag is refused whatever it is. -/
theorem split_of_carried_cons_cons {x : Value} {more : List Value} {a : α}
    (h : tag.carried v = w :: x :: more) (hw : read w = .ok a) :
    tag.split read v = .error (.duplicateField tag.name) := by
  rw [split_eq (container_of_carried h), h]
  simp only [pick, hw]
  rfl

/-! ## What more items and members add -/

theorem carried_of_bare (h : v.Bare) : tag.carried v = [] := by
  cases v with
  | array items =>
    obtain rfl : items = [] := h
    rfl
  | object members =>
    obtain rfl : members = [] := h
    rfl
  | null | boolean | number | string => rfl

/-! ## Sound readers -/

/-- The reader has seen no tag, or one good tag and not the name of another. -/
def Sound (tag : Tag α) (r : Reader) : Prop :=
  tag.carried r.complete = [] ∨ ∃ w a, tag.carried r.complete = [w] ∧ tag.readLabel w = .ok a ∧
    r.name? ≠ some tag.name

/-- Where the tag is to come, a sound reader has seen none. -/
theorem carried_of_sound (hr : tag.Sound r) (hcomplete : r.complete = v)
    (hname : r.name? = some tag.name) : tag.carried v = [] := by
  subst hcomplete
  rcases hr with hr | ⟨_, _, _, _, hother⟩
  · exact hr
  · exact absurd hname hother

theorem refuse_eq_none_iff : tag.refuse w = none ↔ ∃ a, tag.readLabel w = .ok a := by
  rw [refuse]
  cases tag.readLabel w <;> simp

theorem refuse_eq_some_iff {fault : Fault Mismatch} :
    tag.refuse w = some fault ↔ ∃ why, tag.readLabel w = .error why ∧ .mismatch why = fault := by
  rw [refuse]
  cases tag.readLabel w <;> simp

/-- The first item of an array is its tag. -/
theorem carried_arrayNext (w : Value) (before : List Value) :
    tag.carried (Reader.complete ⟨[], .arrayNext (w :: before)⟩) =
      if before = [] then [w] else tag.carried (.array before.reverse) := by
  change ((w :: before).reverse).take 1 = _
  rw [List.reverse_cons]
  cases hbefore : before.reverse with
  | nil => rw [if_pos (List.reverse_eq_nil_iff.mp hbefore)]; rfl
  | cons first items =>
    rw [if_neg fun h => by simp [h] at hbefore]
    rfl

theorem carried_objectNext_self (w : Value) (before : List (String × Value)) :
    tag.carried (Reader.complete ⟨[], .objectNext ((tag.name, w) :: before)⟩) =
      tag.carried (.object before.reverse) ++ [w] := by
  change given tag.name ((tag.name, w) :: before).reverse = _
  rw [List.reverse_cons, given_append, given_singleton_self]
  rfl

theorem carried_objectNext_of_ne {name : String} (h : name ≠ tag.name) (w : Value)
    (before : List (String × Value)) :
    tag.carried (Reader.complete ⟨[], .objectNext ((name, w) :: before)⟩) =
      tag.carried (.object before.reverse) := by
  change given tag.name ((name, w) :: before).reverse = _
  rw [List.reverse_cons, given_append, given_singleton_of_ne h, List.append_nil]
  rfl

theorem watch_objectNext_self (w : Value) (before : List (String × Value)) :
    tag.watch ⟨[], .objectNext ((tag.name, w) :: before)⟩ = tag.refuse w :=
  if_pos rfl

theorem watch_objectNext_of_ne {name : String} (h : name ≠ tag.name) (w : Value)
    (before : List (String × Value)) : tag.watch ⟨[], .objectNext ((name, w) :: before)⟩ = none :=
  if_neg h

theorem watch_colon_of_ne {name : String} (h : name ≠ tag.name) (before : List (String × Value)) :
    tag.watch ⟨[], .colon before name⟩ = none := by
  simp [watch, h]

/-- A name is refused where the tag is carried already. -/
theorem watch_colon_self (before : List (String × Value)) :
    tag.watch ⟨[], .colon before tag.name⟩ =
      if tag.carried (.object before.reverse) = [] then none
      else some (.mismatch (.duplicateField tag.name)) := by
  have hany : (before.any fun member => member.1 = tag.name) = true ↔
      tag.carried (.object before.reverse) ≠ [] := by
    simp [carried, given]
  change (if (decide (tag.name = tag.name) && before.any fun member => member.1 = tag.name) = true
    then _ else _) = _
  rw [decide_eq_true rfl, Bool.true_and]
  by_cases h : tag.carried (.object before.reverse) = []
  · rw [if_pos h, if_neg fun hbefore => hany.mp hbefore h]
  · rw [if_neg h, if_pos (hany.mpr h)]

/-- A byte that is not refused keeps a reader sound. -/
theorem sound_of_grows (hr : tag.Sound r) (h : r.Grows r') (hwatch : tag.watch r' = none) :
    tag.Sound r' := by
  cases h with
  | same hcomplete hname => rwa [Sound, hcomplete, hname]
  | bare hbare => exact .inl (carried_of_bare hbare)
  | @item before w hcomplete =>
    rw [Sound, hcomplete] at hr
    rw [Sound, carried_arrayNext]
    split_ifs with hbefore
    · -- the first item is the tag, and it is looked at
      subst hbefore
      obtain ⟨a, ha⟩ := refuse_eq_none_iff.mp hwatch
      exact .inr ⟨w, a, rfl, ha, nofun⟩
    · rcases hr with hr | ⟨u, a, hu, ha, -⟩
      · exact .inl hr
      · exact .inr ⟨u, a, hu, ha, nofun⟩
  | @name before name hcomplete =>
    rw [Sound, hcomplete] at hr
    rcases hr with hr | ⟨u, a, hu, ha, -⟩
    · exact .inl hr
    · refine .inr ⟨u, a, hu, ha, ?_⟩
      rintro hname
      obtain rfl : name = tag.name := Option.some.inj hname
      rw [watch_colon_self, if_neg (hu ▸ List.cons_ne_nil u [])] at hwatch
      cases hwatch
  | @member before name w hcomplete hname =>
    by_cases htag : name = tag.name
    · -- the tag is complete, and there was none before
      subst htag
      rw [watch_objectNext_self] at hwatch
      obtain ⟨a, ha⟩ := refuse_eq_none_iff.mp hwatch
      rw [Sound, carried_objectNext_self, carried_of_sound hr hcomplete hname]
      exact .inr ⟨w, a, rfl, ha, nofun⟩
    · rw [Sound, hcomplete] at hr
      rw [Sound, carried_objectNext_of_ne htag]
      rcases hr with hr | ⟨u, a, hu, ha, -⟩
      · exact .inl hr
      · exact .inr ⟨u, a, hu, ha, nofun⟩

/-! ## Refusals -/

/-- The fault is that of every value that the reader may be inside of. -/
def Refutes (tag : Tag α) (fault : Fault Mismatch) (v : Value) : Prop :=
  ∃ why, .mismatch why = fault ∧ tag.split tag.readLabel v = .error why

/-- A value in the place of a tag that is refused is refused in the whole. -/
theorem refutes_of_refuse {fault : Fault Mismatch} {more : List Value}
    (h : tag.refuse w = some fault) (hv : tag.carried v = w :: more) : tag.Refutes fault v := by
  obtain ⟨why, hwhy, hfault⟩ := refuse_eq_some_iff.mp h
  exact ⟨why, hfault, split_of_carried_cons hv hwhy⟩

theorem carried_of_begins {before all : List (String × Value)}
    (hbegin : before.reverse ++ [(tag.name, w)] <+: all) :
    ∃ more, tag.carried (.object all) = tag.carried (.object before.reverse) ++ w :: more := by
  obtain ⟨more, rfl⟩ := hbegin
  refine ⟨given tag.name more, ?_⟩
  change given tag.name _ = given tag.name _ ++ _
  rw [given_append, given_append, given_singleton_self, List.append_assoc]
  rfl

/-- A bad value behind the name of the tag is refused in the whole. -/
theorem refutes_of_begins {fault : Fault Mismatch} {before all : List (String × Value)}
    (hnone : tag.carried (.object before.reverse) = [])
    (hbegin : before.reverse ++ [(tag.name, w)] <+: all) (h : tag.refuse w = some fault) :
    tag.Refutes fault (.object all) := by
  obtain ⟨more, hmore⟩ := carried_of_begins hbegin
  rw [hnone] at hmore
  exact refutes_of_refuse h hmore

/-- What is refused at a sound reader is refused in the whole. -/
theorem refutes_of_sound {fault : Fault Mismatch} (hr : tag.Sound r) (hv : r.Within v)
    (hwatch : tag.watch r = some fault) : tag.Refutes fault v := by
  obtain ⟨stack, mode⟩ := r
  have hsame := hwatch
  dsimp only [watch] at hwatch
  split at hwatch
  · cases hwatch
  · cases hwatch
  · -- the value is complete and no container
    rename_i value harray hobject
    obtain rfl : value = v := hv
    cases hwatch
    refine ⟨_, rfl, ?_⟩
    cases value with
    | object members => exact absurd rfl (hobject members)
    | array items => exact absurd rfl (harray items)
    | null | boolean | number | string => rfl
  · -- the name of a second tag is not seen by a sound reader
    rename_i before name
    split_ifs at hwatch with h
    obtain ⟨htag, -⟩ := Bool.and_eq_true_iff.mp h
    obtain rfl := of_decide_eq_true htag
    have hnone : tag.carried (.object before.reverse) = [] := carried_of_sound hr rfl rfl
    rw [watch_colon_self, if_pos hnone] at hsame
    cases hsame
  · -- nor is a bad tag among the members
    rename_i name value before
    split_ifs at hwatch with htag
    subst htag
    rw [Sound, carried_objectNext_self] at hr
    obtain ⟨u, a, hu, ha, -⟩ := hr.resolve_left (by simp)
    obtain ⟨-, hu⟩ := List.append_eq_singleton_iff.mp hu |>.resolve_right (by simp)
    obtain rfl := List.singleton_inj.mp hu
    rw [refuse_eq_none_iff.mpr ⟨a, ha⟩] at hwatch
    cases hwatch
  · -- nor one in front of the items
    rename_i value
    obtain ⟨u, a, hu, ha, -⟩ := hr.resolve_left (List.cons_ne_nil value [])
    obtain rfl := List.singleton_inj.mp hu
    rw [refuse_eq_none_iff.mpr ⟨a, ha⟩] at hwatch
    cases hwatch
  · -- the first item is an array
    obtain ⟨inner, -, all, ⟨more, rfl⟩, rfl⟩ := hv
    exact refutes_of_refuse (w := .array inner) hwatch rfl
  · -- the first item is an object
    obtain ⟨inner, -, all, ⟨more, rfl⟩, rfl⟩ := hv
    exact refutes_of_refuse (w := .object inner) hwatch rfl
  · -- the tag is an array
    rename_i before name
    obtain ⟨inner, -, all, hall, rfl⟩ := hv
    split_ifs at hwatch with htag
    subst htag
    exact refutes_of_begins (w := .array inner) (carried_of_sound hr rfl rfl) hall hwatch
  · -- the tag is an object
    rename_i before name
    obtain ⟨inner, -, all, hall, rfl⟩ := hv
    split_ifs at hwatch with htag
    subst htag
    exact refutes_of_begins (w := .object inner) (carried_of_sound hr rfl rfl) hall hwatch
  · cases hwatch

/-- What is refused behind a sound reader is refused in the whole. -/
theorem refutes_of_grows {fault : Fault Mismatch} (hr : tag.Sound r) (h : r.Grows r')
    (hv : r'.Within v) (hwatch : tag.watch r' = some fault) : tag.Refutes fault v := by
  cases h with
  | same hcomplete hname =>
    exact refutes_of_sound (by rwa [Sound, hcomplete, hname]) hv hwatch
  | bare hbare => exact refutes_of_sound (.inl (carried_of_bare hbare)) hv hwatch
  | @item before w hcomplete =>
    cases before with
    | nil =>
      obtain ⟨all, ⟨more, rfl⟩, rfl⟩ := hv
      exact refutes_of_refuse hwatch rfl
    | cons second before => cases hwatch
  | @name before name hcomplete =>
    by_cases htag : name = tag.name
    · -- the tag that was seen is good, and this is the second one
      subst htag
      rw [watch_colon_self] at hwatch
      split_ifs at hwatch with hnone
      cases hwatch
      rw [Sound, hcomplete] at hr
      obtain ⟨u, a, hu, ha, -⟩ := hr.resolve_left hnone
      obtain ⟨x, all, hall, rfl⟩ := hv
      obtain ⟨more, hmore⟩ := carried_of_begins hall
      rw [hu] at hmore
      exact ⟨_, rfl, split_of_carried_cons_cons hmore ha⟩
    · rw [watch_colon_of_ne htag] at hwatch
      cases hwatch
  | @member before name w hcomplete hname =>
    by_cases htag : name = tag.name
    · subst htag
      obtain ⟨all, hall, rfl⟩ := hv
      rw [List.reverse_cons] at hall
      rw [watch_objectNext_self] at hwatch
      exact refutes_of_begins (carried_of_sound hr hcomplete hname) hall hwatch
    · rw [watch_objectNext_of_ne htag] at hwatch
      cases hwatch

/-! ## Whole texts -/

variable {β : Type} {next : α × Value → Result β} {bytes : Text.Bytes}

/-- A value that a sound reader has completed is split by the name of its tag. -/
def Named (tag : Tag α) (v : Value) : Prop :=
  tag.carried v = [] ∨ ∃ w a, tag.carried v = [w] ∧ tag.readLabel w = .ok a

theorem named_of_sound (hr : tag.Sound r) (hmode : r.mode = .done v) : tag.Named v := by
  have hcomplete : r.complete = v := by
    rw [Reader.complete, hmode]
    rfl
  rw [Sound, hcomplete] at hr
  rcases hr with hr | ⟨w, a, hw, ha, -⟩
  · exact .inl hr
  · exact .inr ⟨w, a, hw, ha⟩

/-- A byte keeps a sound reader sound, or it is refused with what the whole is refused with. -/
theorem advance_of_sound {form : Form Mismatch β} {b : UInt8} {settled : Reader}
    (hform : form.watch = tag.watch) (hr : tag.Sound r) (hsettle : r.settle b = some settled)
    (hconsume : settled.consume b = some r') (hv : r'.Within v) :
    form.advance r b = .ok r' ∧ tag.Sound r' ∨
      ∃ fault, form.advance r b = .error fault ∧ tag.Refutes fault v := by
  have hbegin := Reader.grows_of_settle hsettle
  have hend := Reader.grows_of_consume hconsume
  cases hwatch : tag.watch settled with
  | some fault =>
    refine .inr ⟨fault, Form.advance_of_refused hsettle (hform ▸ hwatch), ?_⟩
    exact refutes_of_grows hr hbegin (Reader.within_of_consume hconsume hv) hwatch
  | none =>
    have hsettled := sound_of_grows hr hbegin hwatch
    cases hwatch' : tag.watch r' with
    | some fault =>
      refine .inr ⟨fault, ?_, refutes_of_grows hsettled hend hv hwatch'⟩
      rw [Form.advance_of_taken hsettle (hform ▸ hwatch) hconsume, Form.check, hform, hwatch']
    | none =>
      refine .inl ⟨Form.advance_eq_ok_iff.mpr ?_, sound_of_grows hsettled hend hwatch'⟩
      exact ⟨settled, hsettle, hform ▸ hwatch, hconsume, hform ▸ hwatch'⟩

/-- From a sound reader on, a text means what its value means when tags are names, in its faults
too. -/
theorem readFrom_eq {form : Form Mismatch β} (hform : form.watch = tag.watch)
    (hdecode : ∀ v, tag.Named v → form.decode v = (tag.split tag.readLabel v >>= next))
    (hr : tag.Sound r) (h : Form.any.readFrom r bytes = .ok v) :
    form.readFrom r bytes = (tag.split tag.readLabel v >>= next).mapError .mismatch := by
  have hrefutes : ∀ {fault}, tag.Refutes fault v →
      .error fault = (tag.split tag.readLabel v >>= next).mapError Fault.mismatch := by
    rintro _ ⟨why, rfl, hwhy⟩
    rw [hwhy]
    rfl
  induction bytes generalizing r with
  | nil =>
    obtain ⟨settled, value, hsettle, -, hmode, hvalue⟩ := Form.close_eq_ok_iff.mp h
    obtain rfl : value = v := Except.ok.inj hvalue
    have hgrows := Reader.grows_of_settleAtEnd hsettle
    rw [Form.readFrom, Form.close_of_done hsettle hmode, Form.check, hform]
    cases hwatch : tag.watch settled with
    | some fault =>
      exact hrefutes (refutes_of_grows hr hgrows (Form.within_of_mode_eq_done hmode) hwatch)
    | none =>
      rw [← hdecode value (named_of_sound (sound_of_grows hr hgrows hwatch) hmode)]
      rfl
  | cons b bytes ih =>
    obtain ⟨behind, hadvance, hbehind⟩ := Form.readFrom_cons_eq_ok_iff.mp h
    obtain ⟨settled, hsettle, -, hconsume, -⟩ := Form.advance_eq_ok_iff.mp hadvance
    have hwithin : behind.Within v := by
      rcases hbehind with ⟨value, hmode, hvalue, -⟩ | ⟨-, hrest⟩
      · obtain rfl : value = v := Except.ok.inj hvalue
        exact Form.within_of_mode_eq_done hmode
      · exact Form.within_of_readFrom hrest
    rcases advance_of_sound hform hr hsettle hconsume hwithin with ⟨hok, hsound⟩ | ⟨_, hfault, hv⟩
    · rcases hbehind with ⟨value, hmode, hvalue, hblank⟩ | ⟨hmode, hrest⟩
      · obtain rfl : value = v := Except.ok.inj hvalue
        rw [Form.readFrom_cons_of_done hok hmode hblank,
          hdecode value (named_of_sound hsound hmode)]
      · rw [Form.readFrom_cons_of_ne_done hok hmode]
        exact ih hsound hrest
    · rw [Form.readFrom, hfault, ← hrefutes hv]
      rfl

end Registrar.Feed.Tag
