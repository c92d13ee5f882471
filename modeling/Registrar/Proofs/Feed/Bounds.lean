import Registrar.Proofs.Build.Retyping
import Registrar.Proofs.Feed.Embedding
import Registrar.Proofs.Feed.Rejection

/-!
# The bounds of ranges, from the feed to the code

The bounds of a range are written as integer literals. A literal that denotes an integer of 64 bits
with a sign comes out of the event as this integer, and its digits stand in the generated line. With
any other literal, however long, the event is rejected, and so it is with minus zero: no literal is
taken for a bound that it does not denote. Main statement: `OpenFeed.bounds_survive`.
-/

namespace Registrar

open Feed
open Json (Value Number Reader Form IntegerLiteral GappedText)
open Text (Bytes)

variable {v t x y : Value} {l : IntegerLiteral} {m : LoneMember}

/-! ## Literals -/

/-- The literal denotes an integer of 64 bits with a sign, and it is not `-0`. -/
def Json.IntegerLiteral.IsBound (l : IntegerLiteral) : Prop :=
  -2 ^ 63 ≤ l.value ∧ l.value ≤ 2 ^ 63 - 1 ∧ ¬ l.IsMinusZero

namespace Json.IntegerLiteral

instance (l : IntegerLiteral) : Decidable l.IsMinusZero :=
  inferInstanceAs (Decidable (l.negative = true ∧ l.magnitude = 0))

instance (l : IntegerLiteral) : Decidable l.IsBound :=
  inferInstanceAs (Decidable (-2 ^ 63 ≤ l.value ∧ l.value ≤ 2 ^ 63 - 1 ∧ ¬ l.IsMinusZero))

theorem IsBound.value? (h : l.IsBound) : l.numeral.value? = some (.integer l.value) := by
  obtain ⟨hmin, hmax, hzero⟩ := h
  refine value?_eq_integer_iff.mpr ⟨rfl, ⟨hmin, ?_⟩, hzero⟩
  change l.value < 18446744073709551616
  omega

/-- The number of a literal is understood as a bound exactly when the literal may be one, and then
as what it denotes. -/
theorem integer_iff {number : Number} (h : l.numeral.value? = some number) (n : Int64) :
    Grammar.integer (.number number) n ↔ l.IsBound ∧ n.toInt = l.value := by
  have hnumber : Grammar.integer (.number number) n ↔
      l.numeral.value? = some (.integer n.toInt) := by
    rw [h, Option.some.injEq]
    exact ⟨fun h => Value.number.inj h, fun h => congrArg Value.number h⟩
  rw [hnumber, value?_eq_integer_iff]
  refine ⟨?_, ?_⟩
  · rintro ⟨hvalue, -, hzero⟩
    have hmin : -2 ^ 63 ≤ n.toInt := n.minValue_le_toInt
    have hmax : n.toInt ≤ 2 ^ 63 - 1 := n.toInt_le
    exact ⟨⟨hvalue ▸ hmin, hvalue ▸ hmax, hzero⟩, hvalue⟩
  · rintro ⟨⟨-, -, hzero⟩, hvalue⟩
    exact ⟨hvalue, Numeral.fits_toInt n, hzero⟩

end Json.IntegerLiteral

/-! ## Ranges and the events around them -/

/-- The bounds of a range as values that are not yet read. -/
def Feed.Grammar.boundParts : Parts [Value, Value] :=
  .cons ⟨"min", itself, none⟩ (.cons ⟨"max", itself, none⟩ .nil)

/-- A value type is tagged as a range, by the name of the form or by its position, and has the
bounds beside the tag. -/
def Feed.Grammar.openRange (t min max : Value) : Prop :=
  ∃ rest, ValueType.tag.split ValueType.tag.readLabelOrPosition t = .ok (.range, rest) ∧
    record boundParts rest (min, max, ())

theorem Feed.Grammar.record_rangeParts_iff (h : record boundParts v (x, y, ())) (lo hi : Int64) :
    record rangeParts v (lo, hi, ()) ↔ integer x lo ∧ integer y hi := by
  cases v with
  | object members =>
    simp only [record, boundParts, Parts.InObject, itself, reduceCtorEq, and_false, or_false,
      and_true, exists_eq_right] at h
    simp [record, rangeParts, Parts.InObject, h]
  | array items =>
    rcases items with _ | ⟨_, _ | ⟨_, _⟩⟩
    · simp [record, boundParts, Parts.InArray] at h
    · simp [record, boundParts, Parts.InArray] at h
    · simp only [record, boundParts, Parts.InArray, itself] at h
      obtain ⟨rfl, rfl, rfl⟩ := h
      simp [record, rangeParts, Parts.InArray]
  | null | boolean | number | string => cases h

/-- A range is read when both its bounds are. -/
theorem ValueType.ofValue_eq_ok_iff_of_openRange (h : Grammar.openRange t x y) (type : ValueType) :
    ValueType.ofValue t = .ok type ↔
      ∃ lo hi, Grammar.integer x lo ∧ Grammar.integer y hi ∧ .range lo hi = type := by
  obtain ⟨rest, hsplit, hrecord⟩ := h
  rw [ofValue, hsplit]
  change rangeSchema.read rest = .ok type ↔ _
  rw [rangeSchema_read_eq_ok_iff]
  simp only [Grammar.record_rangeParts_iff hrecord, and_assoc]

/-- The event of a member whose value type is a value that is not yet read. -/
def LoneMember.openEvent : LoneMember → Value → OpenEvent
  | .state location field name description, t =>
    .state ⟨location, [⟨field, name, description, t⟩]⟩
  | .action location method name description, t =>
    .action ⟨location, [⟨method, name, description, t⟩]⟩

theorem Feed.Grammar.ne_null_of_openEvent {e : OpenEvent} (h : openEvent v e) : v ≠ .null := by
  rintro rfl
  obtain ⟨rest, htagged, -⟩ := h
  cases htagged

theorem Feed.Grammar.ne_number_of_openEvent {e : OpenEvent} (h : openEvent v e) (n : Number) :
    v ≠ .number n := by
  rintro rfl
  obtain ⟨rest, htagged, -⟩ := h
  cases htagged

/-- The event of a member is read when the value type is. -/
theorem LoneMember.ofValue_eq_ok_iff (h : Grammar.openEvent v (m.openEvent t)) (e : Event) :
    Event.ofValue v = .ok e ↔ ∃ type, ValueType.ofValue t = .ok type ∧ m.event type = e := by
  have hread : Event.ofValue v = m.event <$> ValueType.ofValue t := by
    rw [Event.ofValue_of_openEvent h]
    cases m <;>
      simp only [openEvent, OpenEvent.types, List.map_cons, List.map_nil, List.mapM_cons,
        List.mapM_nil] <;>
      cases ValueType.ofValue t <;> rfl
  rw [hread, map_eq_ok_iff]

/-! ## Feeds -/

/-- A feed in which the bounds of a range are left open. -/
structure OpenFeed where
  before : Bytes
  /-- the text of the event that has the range -/
  text : GappedText
  after : Bytes
  /-- whether the upper bound comes before the lower one -/
  maxFirst : Bool

namespace OpenFeed

variable {f : OpenFeed} {events more : List Event} {min max : IntegerLiteral}

/-- The text of the event with bounds. -/
def eventText (f : OpenFeed) (min max : IntegerLiteral) : Bytes :=
  if f.maxFirst then f.text.fill max.bytes min.bytes else f.text.fill min.bytes max.bytes

/-- The feed with bounds. -/
def fill (f : OpenFeed) (min max : IntegerLiteral) : Bytes :=
  f.before ++ f.eventText min max ++ f.after

/-- Up to the bounds the feed is valid: it reports some events, then the member, whose value type is
the range, and then some more events. -/
structure Reports (f : OpenFeed) (events : List Event) (m : LoneMember) (more : List Event) :
    Prop where
  before : Feed.read f.before = .ok events
  event : ∃ whole type : Value → Value → Value,
    f.text.ReadsAs (fun x y => if f.maxFirst then whole y x else whole x y) ∧
      ∀ min max, Grammar.openEvent (whole min max) (m.openEvent (type min max)) ∧
        Grammar.openRange (type min max) min max
  after : Feed.read f.after = .ok more

variable {whole : Value → Value → Value}

/-- Bounds that have numbers stand for these in the event. -/
theorem readFrom_eventText
    (h : f.text.ReadsAs fun x y => if f.maxFirst then whole y x else whole x y)
    (hwhole : whole .null .null ≠ .null) {a b : Number} (hmin : min.numeral.value? = some a)
    (hmax : max.numeral.value? = some b) :
    Form.any.readFrom Reader.start (f.eventText min max) = .ok (whole (.number a) (.number b)) := by
  rw [eventText]
  cases hfirst : f.maxFirst with
  | false =>
    simp only [hfirst, Bool.false_eq_true, if_false] at h ⊢
    exact GappedText.readFrom_fill h hwhole hmin hmax
  | true =>
    simp only [hfirst, if_true] at h ⊢
    exact GappedText.readFrom_fill h hwhole hmax hmin

/-- A bound that has no number is where the reader stops. -/
theorem stuck_eventText
    (h : f.text.ReadsAs fun x y => if f.maxFirst then whole y x else whole x y)
    (hwhole : whole .null .null ≠ .null)
    (hnone : min.numeral.value? = none ∨ max.numeral.value? = none) :
    Reader.start.Stuck (f.eventText min max) := by
  rw [eventText]
  cases hfirst : f.maxFirst with
  | false =>
    simp only [hfirst, Bool.false_eq_true, if_false] at h ⊢
    exact GappedText.stuck_fill h hwhole hnone
  | true =>
    simp only [hfirst, if_true] at h ⊢
    exact GappedText.stuck_fill h hwhole hnone.symm

/-- Of the numbers of literals the event is read exactly when both literals may be bounds, and then
it has what they denote. -/
theorem ofValue_eq_ok_iff {a b : Number} (hevent : Grammar.openEvent v (m.openEvent t))
    (hrange : Grammar.openRange t (.number a) (.number b)) (hmin : min.numeral.value? = some a)
    (hmax : max.numeral.value? = some b) (e : Event) :
    Event.ofValue v = .ok e ↔ min.IsBound ∧ max.IsBound ∧
      ∃ lo hi : Int64, lo.toInt = min.value ∧ hi.toInt = max.value ∧
        m.event (.range lo hi) = e := by
  rw [LoneMember.ofValue_eq_ok_iff hevent]
  simp only [ValueType.ofValue_eq_ok_iff_of_openRange hrange, IntegerLiteral.integer_iff hmin,
    IntegerLiteral.integer_iff hmax]
  refine ⟨?_, ?_⟩
  · rintro ⟨_, ⟨lo, hi, ⟨hminBound, hlo⟩, ⟨hmaxBound, hhi⟩, rfl⟩, he⟩
    exact ⟨hminBound, hmaxBound, lo, hi, hlo, hhi, he⟩
  · rintro ⟨hminBound, hmaxBound, lo, hi, hlo, hhi, he⟩
    exact ⟨_, ⟨lo, hi, ⟨hminBound, hlo⟩, ⟨hmaxBound, hhi⟩, rfl⟩, he⟩

/-- With literals that may be bounds the event has what they denote. -/
theorem Reports.read_eventText (h : f.Reports events m more) (hmin : min.IsBound)
    (hmax : max.IsBound) : ∃ lo hi : Int64, lo.toInt = min.value ∧ hi.toInt = max.value ∧
      Event.form.read (f.eventText min max) = .ok (m.event (.range lo hi)) := by
  obtain ⟨whole, type, hreads, hspells⟩ := h.event
  obtain ⟨hevent, hrange⟩ := hspells (.number (.integer min.value)) (.number (.integer max.value))
  have hwhole := Grammar.ne_null_of_openEvent (hspells .null .null).1
  have hread := readFrom_eventText hreads hwhole hmin.value? hmax.value?
  have hlo : (Int64.ofInt min.value).toInt = min.value :=
    Int64.toInt_ofInt_of_le hmin.1 (Int.lt_of_le_sub_one hmin.2.1)
  have hhi : (Int64.ofInt max.value).toInt = max.value :=
    Int64.toInt_ofInt_of_le hmax.1 (Int.lt_of_le_sub_one hmax.2.1)
  refine ⟨_, _, hlo, hhi, ?_⟩
  rw [Event.read_form_eq (Json.Value.ofBytes?_eq_some_iff.mpr hread),
    (ofValue_eq_ok_iff hevent hrange hmin.value? hmax.value? _).mpr
      ⟨hmin, hmax, _, _, hlo, hhi, rfl⟩]
  rfl

/-- With any other literals the event is rejected. -/
theorem Reports.rejects_eventText (h : f.Reports events m more)
    (hbounds : ¬ (min.IsBound ∧ max.IsBound)) (earlier : List Event) :
    Progress.Rejects ⟨earlier, Reader.start⟩ (f.eventText min max) := by
  obtain ⟨whole, type, hreads, hspells⟩ := h.event
  have hwhole := Grammar.ne_null_of_openEvent (hspells .null .null).1
  by_cases hnone : min.numeral.value? = none ∨ max.numeral.value? = none
  · exact rejects_of_stuck (stuck_eventText hreads hwhole hnone) earlier
  · obtain ⟨hminSome, hmaxSome⟩ := not_or.mp hnone
    obtain ⟨a, ha⟩ := Option.ne_none_iff_exists'.mp hminSome
    obtain ⟨b, hb⟩ := Option.ne_none_iff_exists'.mp hmaxSome
    obtain ⟨hevent, hrange⟩ := hspells (.number a) (.number b)
    have hstart : ∀ w, Reader.start.mode ≠ .done w := nofun
    refine rejects_of_refused hstart (readFrom_eventText hreads hwhole ha hb)
      (Grammar.ne_number_of_openEvent hevent) (fun e he => ?_) earlier
    obtain ⟨hmin, hmax, -⟩ := (ofValue_eq_ok_iff hevent hrange ha hb e).mp he
    exact hbounds ⟨hmin, hmax⟩

/-- Take a feed that is valid and generates files but for the literals of a range's bounds. With
literals that denote integers of 64 bits with a sign and are not `-0`, the event is read with these
integers, and the line of its member has the digits of the literals. With any other literals, of
whatever length, the feed is refused for the event, so no literal is taken for a bound that it does
not denote. -/
theorem bounds_survive {lo hi : Int64} {files : GeneratedFiles} (h : f.Reports events m more)
    (hfiles : generate (events ++ m.event (.range lo hi) :: more) = .ok files)
    (min max : IntegerLiteral) :
    (min.IsBound → max.IsBound → ∃ a b : Int64, a.toInt = min.value ∧ b.toInt = max.value ∧
      Feed.read (f.fill min max) = .ok (events ++ m.event (.range a b) :: more) ∧
      ∃ files text, generate (events ++ m.event (.range a b) :: more) = .ok files ∧
        files.find? m.location.outputPath = some (Text.encode text) ∧
        Includes text (m.line ("metadata.MakeTypeRange(" ++ min.text ++ ", " ++ max.text ++ ")"))) ∧
    (¬ (min.IsBound ∧ max.IsBound) →
      ∃ fault, Feed.read (f.fill min max) = .error ⟨events.length, fault⟩) := by
  refine ⟨fun hmin hmax => ?_, fun hbounds => ?_⟩
  · obtain ⟨a, b, ha, hb, hevent⟩ := h.read_eventText hmin hmax
    have hrange : ValueType.range a b ≠ .enum [] := nofun
    obtain ⟨files', hfiles'⟩ := m.exists_generate hrange hfiles
    have htype : Template.valueType? (.range a b) =
        some ("metadata.MakeTypeRange(" ++ min.text ++ ", " ++ max.text ++ ")") := by
      rw [Template.valueType?, ha, hb, ← IntegerLiteral.text_eq_toString hmin.2.2,
        ← IntegerLiteral.text_eq_toString hmax.2.2]
    have hmem : m.event (.range a b) ∈ events ++ m.event (.range a b) :: more :=
      List.mem_append_right _ List.mem_cons_self
    obtain ⟨text, hfind, hline⟩ := LoneMember.exists_find?_eq hfiles' hmem htype
    exact ⟨a, b, ha, hb, read_of_accepts h.before hevent h.after, files', text, hfiles', hfind,
      hline⟩
  · exact read_of_rejects h.before (h.rejects_eventText hbounds _) f.after

/-- The location of the sample. -/
def sampleBoundsLocation : Location :=
  ⟨⟨"a/b"⟩, ⟨"a"⟩, "b"⟩

/-- A plugin, and a state of it whose type is a range. The upper bound comes first, and the tag of
the type stands between the bounds. -/
def sampleOpenFeed : OpenFeed where
  before := Text.encode ("\x7b\"kind\":\"plugin\",\"location\":[\"a/b\",\"a\",\"b\"]," ++
    "\"annotations\":[[\"Level\",\"level\",\"\",\"sensor\",\"1\"]]\x7d\n")
  text := ⟨Text.encode ("\x7b\"kind\":\"state\",\"location\":[\"a/b\",\"a\",\"b\"]," ++
      "\"annotations\":[[\"Depth\",\"depth\",\"\",\x7b\"max\":"),
    Text.encode ",\"type\":\"range\",\"min\": ", Text.encode " \x7d]]\x7d"⟩
  after := Text.encode "\n"
  maxFirst := true

/-- The plugin of the sample. -/
def sampleBoundsPlugin : Event :=
  .plugin ⟨sampleBoundsLocation, [⟨"Level", "level", "", .sensor, "1"⟩]⟩

/-- The state of the sample. -/
def sampleBoundsMember : LoneMember :=
  .state sampleBoundsLocation "Depth" "depth" ""

/-- The value type of the sample with values for its bounds. -/
def sampleOpenType (min max : Value) : Value :=
  .object [("max", max), ("type", .string "range"), ("min", min)]

/-- The state of the sample with values for the bounds of its type. -/
def sampleOpenEvent (min max : Value) : Value :=
  .object [("kind", .string "state"),
    ("location", .array [.string "a/b", .string "a", .string "b"]),
    ("annotations", .array [.array [.string "Depth", .string "depth", .string "",
      sampleOpenType min max]])]

theorem sampleOpenFeed_reads :
    sampleOpenFeed.text.ReadsAs fun x y =>
      if sampleOpenFeed.maxFirst then sampleOpenEvent y x else sampleOpenEvent x y := by
  exact ⟨_, ⟨_, by set_option maxRecDepth 20000 in rfl, Reader.atValue_value _⟩, fun x =>
    ⟨_, ⟨_, by set_option maxRecDepth 20000 in rfl, Reader.atValue_value _⟩, fun y => by
      set_option maxRecDepth 20000 in rfl⟩⟩

theorem openEvent_sampleOpenEvent (min max : Value) :
    Grammar.openEvent (sampleOpenEvent min max)
      (sampleBoundsMember.openEvent (sampleOpenType min max)) := by
  have htag : given "kind" [("kind", .string "state"),
      ("location", .array [.string "a/b", .string "a", .string "b"]),
      ("annotations", .array [.array [.string "Depth", .string "depth", .string "",
        sampleOpenType min max]])] = [.string "state"] := by simp [given]
  refine ⟨_, .object htag, ?_⟩
  simp [others, given, LoneMember.openEvent, sampleBoundsMember, sampleBoundsLocation,
    Grammar.openEventRest, Grammar.occurrence, Grammar.record, Grammar.occurrenceParts,
    Grammar.Parts.InObject, Grammar.Parts.InArray, Grammar.location, Grammar.locationParts,
    Grammar.path, Grammar.text, Grammar.list, Grammar.openDecl, Grammar.memberParts,
    Grammar.itself]

theorem openRange_sampleOpenType (min max : Value) :
    Grammar.openRange (sampleOpenType min max) min max := by
  refine ⟨.object [("max", max), ("min", min)], rfl, ?_⟩
  simp [Grammar.record, Grammar.boundParts, Grammar.Parts.InObject, given, Grammar.itself]

theorem sampleOpenFeed_reports :
    sampleOpenFeed.Reports [sampleBoundsPlugin] sampleBoundsMember [] where
  before := by set_option maxRecDepth 20000 in rfl
  event := ⟨sampleOpenEvent, sampleOpenType, sampleOpenFeed_reads, fun min max =>
    ⟨openEvent_sampleOpenEvent min max, openRange_sampleOpenType min max⟩⟩
  after := rfl

/-- The least integer of 64 bits with a sign. -/
def sampleLeast : IntegerLiteral :=
  ⟨true, 9, [2, 2, 3, 3, 7, 2, 0, 3, 6, 8, 5, 4, 7, 7, 5, 8, 0, 8], by decide⟩

/-- The greatest integer of 64 bits with a sign. -/
def sampleGreatest : IntegerLiteral :=
  ⟨false, 9, [2, 2, 3, 3, 7, 2, 0, 3, 6, 8, 5, 4, 7, 7, 5, 8, 0, 7], by decide⟩

/-- The least integer above zero, and the 64th power of two. -/
def sampleWrapped : IntegerLiteral :=
  ⟨false, 1, [8, 4, 4, 6, 7, 4, 4, 0, 7, 3, 7, 0, 9, 5, 5, 1, 6, 1, 7], by decide⟩

theorem generate_sampleOpenFeed_isOk :
    (generate [sampleBoundsPlugin, sampleBoundsMember.event (.range 0 0)]).isOk = true := by
  decide +kernel

theorem sampleOpenFeed_bounds_survive :
    sampleOpenFeed.Reports [sampleBoundsPlugin] sampleBoundsMember [] ∧
      sampleLeast.IsBound ∧ sampleGreatest.IsBound ∧ ¬ sampleWrapped.IsBound ∧
      ∃ files, generate [sampleBoundsPlugin, sampleBoundsMember.event (.range 0 0)] = .ok files ∧
        (∃ a b : Int64, a.toInt = -9223372036854775808 ∧ b.toInt = 9223372036854775807 ∧
          Feed.read (sampleOpenFeed.fill sampleLeast sampleGreatest) =
            .ok [sampleBoundsPlugin, sampleBoundsMember.event (.range a b)] ∧
          ∃ files text,
            generate [sampleBoundsPlugin, sampleBoundsMember.event (.range a b)] = .ok files ∧
            files.find? sampleBoundsLocation.outputPath = some (Text.encode text) ∧
            Includes text (sampleBoundsMember.line ("metadata.MakeTypeRange(" ++
              sampleLeast.text ++ ", " ++ sampleGreatest.text ++ ")"))) ∧
        ∃ fault, Feed.read (sampleOpenFeed.fill sampleLeast sampleWrapped) =
          .error ⟨1, fault⟩ := by
  have hleast : sampleLeast.IsBound := by decide
  have hgreatest : sampleGreatest.IsBound := by decide
  have hwrapped : ¬ sampleWrapped.IsBound := by decide
  have hok := generate_sampleOpenFeed_isOk
  cases hfiles : generate [sampleBoundsPlugin, sampleBoundsMember.event (.range 0 0)] with
  | error why =>
    rw [hfiles] at hok
    cases hok
  | ok files =>
    exact ⟨sampleOpenFeed_reports, hleast, hgreatest, hwrapped, files, rfl,
      (bounds_survive sampleOpenFeed_reports hfiles sampleLeast sampleGreatest).1 hleast hgreatest,
      (bounds_survive sampleOpenFeed_reports hfiles sampleLeast sampleWrapped).2
        fun h => hwrapped h.2⟩

end OpenFeed

end Registrar
