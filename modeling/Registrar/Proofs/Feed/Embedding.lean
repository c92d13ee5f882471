import Registrar.Proofs.Feed.ValueTypes

/-!
# Value types inside events

An event that spells a state or an action up to its value type is read by reading the value type
where it stands: what the type means is put into the event, and what it is refused with is what the
event is refused with. With the reading of types alone this says where the two agree. Main
statements: `Event.ofValue_of_openEvent` and `ValueType.read_inside_eq_iff`.
-/

namespace Registrar

open Feed
open Json (Value Fault)
open Text (Bytes)

variable {v w : Value} {why : Mismatch} {target : String} {α : Type}

/-! ## Spelled up to a part -/

/-- A state or an action whose value type is a value that is not yet read. -/
structure OpenDecl where
  /-- the identifier that it belongs to -/
  target : String
  name : String
  description : String
  valueType : Value

/-- The state with a value type. -/
def OpenDecl.state (d : OpenDecl) (t : ValueType) : StateDecl :=
  ⟨d.target, d.name, d.description, t⟩

/-- The action with a value type. -/
def OpenDecl.action (d : OpenDecl) (t : ValueType) : ActionDecl :=
  ⟨d.target, d.name, d.description, t⟩

namespace Feed.Grammar

variable {αs : List Type}

/-- A value spells itself. -/
def itself : Grammar Value :=
  fun v w => v = w

/-- No value spells two things in the place of a part. -/
def Parts.Unique : {αs : List Type} → Parts αs → Prop
  | _, .nil => True
  | _, .cons part rest => (∀ w x y, part.spells w x → part.spells w y → x = y) ∧ rest.Unique

theorem Parts.InObject.eq {parts : Parts αs} (hparts : parts.Unique)
    {members : List (String × Value)} {xs ys : Tuple αs} (hx : parts.InObject members xs)
    (hy : parts.InObject members ys) : xs = ys := by
  induction parts with
  | nil => rfl
  | cons part rest ih =>
    obtain ⟨x, xs⟩ := xs
    obtain ⟨y, ys⟩ := ys
    obtain rfl : xs = ys := ih hparts.2 hx.2 hy.2
    have hxy : x = y := by
      rcases hx.1 with ⟨v, hv, hspells⟩ | ⟨hnone, hdefault⟩
      · rcases hy.1 with ⟨w, hw, hspells'⟩ | ⟨hnone', -⟩
        · obtain rfl : v = w := List.singleton_inj.mp (hv.symm.trans hw)
          exact hparts.1 v x y hspells hspells'
        · rw [hv] at hnone'
          cases hnone'
      · rcases hy.1 with ⟨w, hw, -⟩ | ⟨-, hdefault'⟩
        · rw [hnone] at hw
          cases hw
        · exact Option.some.inj (hdefault.symm.trans hdefault')
    rw [hxy]

theorem Parts.InArray.eq {parts : Parts αs} (hparts : parts.Unique) {items : List Value}
    {xs ys : Tuple αs} (hx : parts.InArray items xs) (hy : parts.InArray items ys) : xs = ys := by
  induction parts generalizing items with
  | nil => rfl
  | cons part rest ih =>
    obtain ⟨x, xs⟩ := xs
    obtain ⟨y, ys⟩ := ys
    cases items with
    | nil =>
      obtain rfl : xs = ys := ih hparts.2 hx.2 hy.2
      rw [Option.some.inj (hx.1.symm.trans hy.1)]
    | cons item items =>
      obtain rfl : xs = ys := ih hparts.2 hx.2 hy.2
      rw [hparts.1 item x y hx.1 hy.1]

/-- A value spells one record at most. -/
theorem record_unique {parts : Parts αs} (hparts : parts.Unique) {xs ys : Tuple αs}
    (hx : record parts v xs) (hy : record parts v ys) : xs = ys := by
  cases v with
  | object members => exact Parts.InObject.eq hparts hx hy
  | array items => exact Parts.InArray.eq hparts hx hy
  | null | boolean | number | string => cases hx

theorem text_unique {a b : String} (ha : text w a) (hb : text w b) : a = b :=
  Value.string.inj (ha.symm.trans hb)

theorem itself_unique {u u' : Value} (hu : itself w u) (hu' : itself w u') : u = u' :=
  hu.symm.trans hu'

/-! ## Members of a plugin -/

/-- A state or an action up to its value type. The identifier stands under `target`. -/
def openDecl (target : String) : Grammar OpenDecl :=
  fun v d => record (memberParts target itself) v
    (d.target, d.name, d.description, d.valueType, ())

/-- What spells a member of a plugin spells it up to its type, which spells the rest. -/
theorem record_memberParts_iff {type : Grammar α} {a b c : String} {x : α} :
    record (memberParts target type) v (a, b, c, x, ()) ↔
      ∃ t, openDecl target v ⟨a, b, c, t⟩ ∧ type t x := by
  cases v with
  | object members =>
    simp only [openDecl, record, memberParts, Parts.InObject, itself, reduceCtorEq, and_false,
      or_false, and_true]
    refine ⟨?_, ?_⟩
    · rintro ⟨ha, hb, hc, t, ht, hx⟩
      exact ⟨t, ⟨ha, hb, hc, t, ht, rfl⟩, hx⟩
    · rintro ⟨t, ⟨ha, hb, hc, _, ht, rfl⟩, hx⟩
      exact ⟨ha, hb, hc, _, ht, hx⟩
  | array items =>
    -- an array that is too short spells no member at all
    rcases items with _ | ⟨_, _ | ⟨_, _ | ⟨_, _ | ⟨_, _⟩⟩⟩⟩
    · simp [openDecl, record, memberParts, Parts.InArray]
    · simp [openDecl, record, memberParts, Parts.InArray]
    · simp [openDecl, record, memberParts, Parts.InArray]
    · simp [openDecl, record, memberParts, Parts.InArray]
    · simp only [openDecl, record, memberParts, Parts.InArray, itself]
      refine ⟨?_, ?_⟩
      · rintro ⟨ha, hb, hc, hx, hnone⟩
        exact ⟨_, ⟨ha, hb, hc, rfl, hnone⟩, hx⟩
      · rintro ⟨_, ⟨ha, hb, hc, rfl, hnone⟩, hx⟩
        exact ⟨ha, hb, hc, hx, hnone⟩
  | null | boolean | number | string => simp [record, openDecl]

theorem openDecl_unique {d d' : OpenDecl} (h : openDecl target v d) (h' : openDecl target v d') :
    d = d' := by
  have hparts : (memberParts target itself).Unique :=
    ⟨fun _ _ _ => text_unique, fun _ _ _ => text_unique, fun _ _ _ => text_unique,
      fun _ _ _ => itself_unique, trivial⟩
  have heq := record_unique hparts h h'
  obtain ⟨a, b, c, t⟩ := d
  obtain ⟨a', b', c', t'⟩ := d'
  cases heq
  rfl

end Feed.Grammar

/-- The fields of a member of a plugin, the first of them under `target`. -/
def memberSchema (title target : String) (make : String → String → String → ValueType → α) :
    Schema α where
  title := title
  types := [String, String, String, ValueType]
  fields := .cons ⟨target, readString, none⟩ (.cons ⟨"name", readString, none⟩
    (.cons ⟨"description", readString, some ""⟩
      (.cons ⟨"value_type", ValueType.ofValue, none⟩ .nil)))
  make := fun (target, name, description, valueType, _) => make target name description valueType

/-- A member of a plugin that is spelled up to its type is read by reading its type. -/
theorem memberSchema_read (title : String) (make : String → String → String → ValueType → α)
    {d : OpenDecl} (htarget : target ∉ ["name", "description", "value_type"])
    (h : Grammar.openDecl target v d) :
    (memberSchema title target make).read v =
      make d.target d.name d.description <$> ValueType.ofValue d.valueType := by
  have hnames : (memberSchema title target make).fields.names.Nodup :=
    List.nodup_cons.mpr ⟨htarget, by decide⟩
  refine eq_of_ok_iff_of_error (fun a => ?_) ?_
  · have hfields : (memberSchema title target make).fields.Agree v 0
        (Grammar.memberParts target fun w t => ValueType.ofValue w = .ok t) :=
      Fields.agree_memberParts target fun _ _ _ => Iff.rfl
    rw [Schema.read_eq_ok_iff hnames hfields, map_eq_ok_iff]
    refine ⟨?_, ?_⟩
    · rintro ⟨⟨target', name, description, t, ⟨⟩⟩, hrecord, hmake⟩
      obtain ⟨w, hopen, hw⟩ := Grammar.record_memberParts_iff.mp hrecord
      obtain rfl := Grammar.openDecl_unique h hopen
      exact ⟨t, hw, hmake⟩
    · rintro ⟨t, ht, hmake⟩
      exact ⟨_, Grammar.record_memberParts_iff.mpr ⟨d.valueType, h, ht⟩, hmake⟩
  · intro why other hwhy hother
    have hstring : ∀ {w s}, Grammar.text w s → ∀ why, readString w = .error why → why = other := by
      rintro _ s rfl _ ⟨⟩
    have hrecord : Grammar.record (Grammar.memberParts target Grammar.itself) v
      (d.target, d.name, d.description, d.valueType, ()) := h
    refine Schema.property_of_read_eq_error hnames (P := (· = other))
      (Schema.blames_of_record ?_ hrecord) hwhy
    refine ⟨rfl, fun _ => rfl, fun _ _ => hstring, rfl, fun _ => rfl, fun _ _ => hstring, rfl,
      nofun, fun _ _ => hstring, rfl, fun _ => rfl, ?_, trivial⟩
    rintro _ - rfl why' hwhy'
    exact Except.error.inj (hwhy'.symm.trans (map_eq_error_iff.mp hother))

theorem StateDecl.schema_read {d : OpenDecl} (h : Grammar.openDecl "field" v d) :
    StateDecl.schema.read v = d.state <$> ValueType.ofValue d.valueType :=
  memberSchema_read _ StateDecl.mk (by decide) h

theorem ActionDecl.schema_read {d : OpenDecl} (h : Grammar.openDecl "method" v d) :
    ActionDecl.schema.read v = d.action <$> ValueType.ofValue d.valueType :=
  memberSchema_read _ ActionDecl.mk (by decide) h

/-! ## Occurrences -/

namespace Feed.Grammar

theorem location_unique {l l' : Location} (h : location w l) (h' : location w l') : l = l' := by
  have hpath : ∀ w (p q : Path), path w p → path w q → p = q := by
    rintro _ ⟨p⟩ ⟨q⟩ rfl hq
    exact congrArg Path.mk (Value.string.inj hq)
  have hparts : locationParts.Unique :=
    ⟨hpath, hpath, fun _ _ _ => text_unique, trivial⟩
  have heq := record_unique hparts h h'
  obtain ⟨dir, root, package⟩ := l
  obtain ⟨dir', root', package'⟩ := l'
  cases heq
  rfl

theorem list_itself_iff {items : List Value} : list itself w items ↔ w = .array items := by
  have hitself : List.Forall₂ itself = Eq := List.forall₂_eq_eq_eq
  rw [list, hitself]
  simp

/-- What spells an occurrence spells it up to its declarations, which spell the rest. -/
theorem occurrence_iff {spells : Grammar α} {o : Occurrence α} :
    occurrence spells v o ↔ ∃ items, occurrence itself v ⟨o.location, items⟩ ∧
      List.Forall₂ spells items o.annotations := by
  cases v with
  | object members =>
    simp only [occurrence, record, occurrenceParts, Parts.InObject, list_itself_iff, reduceCtorEq,
      and_false, or_false, and_true]
    refine ⟨?_, ?_⟩
    · rintro ⟨hl, _, hw, items, rfl, hitems⟩
      exact ⟨items, ⟨hl, _, hw, rfl⟩, hitems⟩
    · rintro ⟨items, ⟨hl, _, hw, rfl⟩, hitems⟩
      exact ⟨hl, _, hw, items, rfl, hitems⟩
  | array parts =>
    rcases parts with _ | ⟨_, _ | ⟨_, _⟩⟩
    · simp [occurrence, record, occurrenceParts, Parts.InArray]
    · simp [occurrence, record, occurrenceParts, Parts.InArray]
    · simp only [occurrence, record, occurrenceParts, Parts.InArray, list_itself_iff]
      refine ⟨?_, ?_⟩
      · rintro ⟨hl, ⟨items, rfl, hitems⟩, hnone⟩
        exact ⟨items, ⟨hl, rfl, hnone⟩, hitems⟩
      · rintro ⟨items, ⟨hl, rfl, hnone⟩, hitems⟩
        exact ⟨hl, ⟨items, rfl, hitems⟩, hnone⟩
  | null | boolean | number | string => simp [occurrence, record]

theorem occurrence_itself_unique {o o' : Occurrence Value} (h : occurrence itself v o)
    (h' : occurrence itself v o') : o = o' := by
  have hlist : ∀ w (items items' : List Value), list itself w items → list itself w items' →
      items = items' := fun w items items' h h' =>
    Value.array.inj ((list_itself_iff.mp h).symm.trans (list_itself_iff.mp h'))
  have hparts : (occurrenceParts itself).Unique :=
    ⟨fun _ _ _ => location_unique, hlist, trivial⟩
  have heq := record_unique hparts h h'
  obtain ⟨l, items⟩ := o
  obtain ⟨l', items'⟩ := o'
  cases heq
  rfl

end Feed.Grammar

/-- An occurrence that is spelled up to its declarations is read by reading these. -/
theorem Occurrence.schema_read {declaration : Schema α} {l : Location} {items : List Value}
    (h : Grammar.occurrence Grammar.itself v ⟨l, items⟩) :
    (Occurrence.schema declaration).read v =
      Occurrence.mk l <$> readEach declaration.read items := by
  refine eq_of_ok_iff_of_error (fun o => ?_) ?_
  · have hspells : (Occurrence.schema declaration).read v = .ok o ↔
        Grammar.occurrence (fun w a => declaration.read w = .ok a) v o :=
      Occurrence.schema_read_eq_ok_iff (fun _ _ _ _ _ => Iff.rfl) o
    rw [hspells, Grammar.occurrence_iff, map_eq_ok_iff]
    have heach : ∀ xs, readEach declaration.read items = .ok xs ↔
        List.Forall₂ (fun w a => declaration.read w = .ok a) items xs :=
      readEach_eq_ok_iff fun _ _ _ => Iff.rfl
    refine ⟨?_, ?_⟩
    · rintro ⟨items', hopen, hitems⟩
      cases Grammar.occurrence_itself_unique h hopen
      exact ⟨o.annotations, (heach _).mpr hitems, rfl⟩
    · rintro ⟨xs, hxs, rfl⟩
      exact ⟨items, h, (heach xs).mp hxs⟩
  · intro why other hwhy hother
    have hnames : (Occurrence.schema declaration).fields.names.Nodup := by
      change ["location", "annotations"].Nodup
      decide
    have hrecord : Grammar.record (Grammar.occurrenceParts Grammar.itself) v (l, items, ()) := h
    refine Schema.property_of_read_eq_error hnames (P := (· = other))
      (Schema.blames_of_record ?_ hrecord) hwhy
    refine ⟨rfl, fun _ => rfl, ?_, rfl, fun _ => rfl, ?_, trivial⟩
    · intro w _ hl why' hwhy'
      have hl' := (Location.schema_read_eq_ok_iff w l).mpr hl
      cases hl'.symm.trans hwhy'
    · intro w _ hw why' hwhy'
      obtain rfl := Grammar.list_itself_iff.mp hw
      exact Except.error.inj (hwhy'.symm.trans (map_eq_error_iff.mp hother))

/-- Reading values one after the other is doing so with what they spell. -/
theorem Feed.readEach_eq_mapM {β : Type} {read : Value → Result α} {spells : Grammar β}
    {fill : β → Result α} (h : ∀ w b, spells w b → read w = fill b) {items : List Value}
    {bs : List β} (hitems : List.Forall₂ spells items bs) : readEach read items = bs.mapM fill := by
  induction hitems with
  | nil => rfl
  | cons hitem _ ih =>
    rw [readEach, List.mapM_cons, h _ _ hitem, ih]

/-- An occurrence that is spelled up to what stands open in its declarations is read by reading what
stands open. -/
theorem Occurrence.schema_read_open {declaration : Schema α} {β : Type} {spells : Grammar β}
    {fill : β → Result α} {o : Occurrence β} (h : Grammar.occurrence spells v o)
    (hfill : ∀ w b, spells w b → declaration.read w = fill b) :
    (Occurrence.schema declaration).read v =
      Occurrence.mk o.location <$> o.annotations.mapM fill := by
  obtain ⟨items, hopen, hitems⟩ := Grammar.occurrence_iff.mp h
  rw [Occurrence.schema_read hopen, readEach_eq_mapM hfill hitems]

/-! ## Events -/

/-- The states or actions of an event up to their value types. -/
inductive OpenEvent where
  | state (o : Occurrence OpenDecl)
  | action (o : Occurrence OpenDecl)

namespace OpenEvent

/-- The kind of the event. -/
def kind : OpenEvent → Kind
  | .state _ => .state
  | .action _ => .action

/-- The values in the places of the value types. -/
def types : OpenEvent → List Value
  | .state o => o.annotations.map OpenDecl.valueType
  | .action o => o.annotations.map OpenDecl.valueType

/-- The event with value types. -/
def fill : OpenEvent → List ValueType → Event
  | .state o, ts => .state ⟨o.location, o.annotations.zipWith OpenDecl.state ts⟩
  | .action o, ts => .action ⟨o.location, o.annotations.zipWith OpenDecl.action ts⟩

end OpenEvent

/-- What stands beside the tag of an event spells the event up to its value types. -/
def Feed.Grammar.openEventRest : Grammar OpenEvent
  | rest, .state o => occurrence (openDecl "field") rest o
  | rest, .action o => occurrence (openDecl "method") rest o

/-- A value spells the states or actions of an event up to their value types. -/
def Feed.Grammar.openEvent : Grammar OpenEvent :=
  fun v e => ∃ rest, Tagged "kind" e.kind.name v rest ∧ openEventRest rest e

/-- Reading what stands open in declarations is reading it in all of them and filling it in. -/
theorem OpenDecl.mapM_fill (fill : OpenDecl → ValueType → α) (ds : List OpenDecl) :
    (ds.mapM fun d => fill d <$> ValueType.ofValue d.valueType) =
      ds.zipWith fill <$> (ds.map valueType).mapM ValueType.ofValue := by
  induction ds with
  | nil => rfl
  | cons d ds ih =>
    rw [List.mapM_cons, List.map_cons, List.mapM_cons, ih]
    cases ValueType.ofValue d.valueType with
    | error why => rfl
    | ok t => cases (ds.map valueType).mapM ValueType.ofValue <;> rfl

/-- An event that is spelled up to its value types is read by reading these, in their order. -/
theorem Event.ofValue_of_openEvent {e : OpenEvent} (h : Grammar.openEvent v e) :
    Event.ofValue v = e.fill <$> e.types.mapM ValueType.ofValue := by
  obtain ⟨rest, htagged, hrest⟩ := h
  have hsplit : Event.tag.split Event.tag.readLabel v = .ok (e.kind, rest) :=
    (Tag.split_eq_ok_iff fun w _ => Event.readLabel_tag_eq_ok_iff w e.kind).mpr htagged
  rw [ofValue, hsplit]
  cases e with
  | state o =>
    have hopen : Grammar.occurrence (Grammar.openDecl "field") rest o := hrest
    change Event.state <$> (Occurrence.schema StateDecl.schema).read rest = _
    rw [Occurrence.schema_read_open hopen fun _ _ => StateDecl.schema_read,
      OpenDecl.mapM_fill OpenDecl.state, OpenEvent.types]
    cases (o.annotations.map OpenDecl.valueType).mapM ValueType.ofValue <;> rfl
  | action o =>
    have hopen : Grammar.occurrence (Grammar.openDecl "method") rest o := hrest
    change Event.action <$> (Occurrence.schema ActionDecl.schema).read rest = _
    rw [Occurrence.schema_read_open hopen fun _ _ => ActionDecl.schema_read,
      OpenDecl.mapM_fill OpenDecl.action, OpenEvent.types]
    cases (o.annotations.map OpenDecl.valueType).mapM ValueType.ofValue <;> rfl

/-! ## Alone and inside -/

/-- In an event that is fine otherwise, a value type means what it means alone, and is refused with
what it is refused with alone, exactly unless a number from zero on stands in the place of its
tag. -/
theorem ValueType.read_inside_eq_iff {t : Value} {alone inside : Bytes} {e : OpenEvent}
    {before after : List Value} {xs ys : List ValueType} (halone : Value.ofBytes? alone = some t)
    (hinside : Value.ofBytes? inside = some v) (hv : Grammar.openEvent v e)
    (htypes : e.types = before ++ t :: after) (hbefore : before.mapM ofValue = .ok xs)
    (hafter : after.mapM ofValue = .ok ys) :
    Event.form.read inside = (fun x => e.fill (xs ++ x :: ys)) <$> ValueType.form.read alone ↔
      ¬ Numbered t := by
  have hvalue : Event.ofValue v = (fun x => e.fill (xs ++ x :: ys)) <$> ofValue t := by
    rw [Event.ofValue_of_openEvent hv, htypes, List.mapM_append, hbefore, List.mapM_cons, hafter]
    cases ofValue t <;> rfl
  rw [Event.read_form_eq hinside, read_form_eq halone, hvalue]
  refine ⟨fun heq hnumbered => ?_, fun hnamed => ?_⟩
  · -- alone the number is refused for its type, and inside it is not
    obtain ⟨n, hn⟩ := ofNamed_of_numbered hnumbered
    rw [hn] at heq
    cases hwhy : ofValue t with
    | ok x =>
      rw [hwhy] at heq
      cases heq
    | error why =>
      rw [hwhy] at heq
      cases heq
      exact notOfTag_of_numbered hnumbered hwhy rfl
  · rw [ofValue_eq_ofNamed hnamed]
    cases ofNamed t <;> rfl

/-- A value type with the position of `bool` in the place of its tag. -/
def sampleNumbered : Value :=
  .object [("type", .ofInt 3)]

/-- A state of that value type. -/
def sampleNumberedReport : Value :=
  .object [("kind", .string "state"),
    ("location", .object [("dir", .string "d"), ("root", .string "w"), ("package", .string "p")]),
    ("annotations", .array [.object [("field", .string "Value"), ("name", .string "value"),
      ("value_type", sampleNumbered)]])]

/-- Alone the type is refused, and inside the event it is understood. -/
theorem sampleNumbered_differs :
    ValueType.Numbered sampleNumbered ∧
      ValueType.ofNamed sampleNumbered =
        .error (.wrongType "integer `3`" "variant identifier") ∧
      Event.ofValue sampleNumberedReport =
        .ok (.state ⟨⟨⟨"d"⟩, ⟨"w"⟩, "p"⟩, [⟨"Value", "value", "", .bool⟩]⟩) :=
  ⟨⟨3, [], rfl⟩, rfl, rfl⟩

end Registrar
