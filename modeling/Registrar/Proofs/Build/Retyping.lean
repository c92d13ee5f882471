import Registrar.Proofs.Build.Faults

/-!
# Value types of a stream

Which value types a stream declares decides nothing about whether it generates files, enumerations
without values apart (`exists_generate_of_retyped`). Each of them has its line in the file of its
location (`LoneMember.exists_find?_eq`).
-/

namespace Registrar

variable {events others : List Event} {files : GeneratedFiles} {p : Path} {t t' : ValueType}

/-! ## What a build asks of events -/

/-- All that decides whether an event is taken: its kind, its location, and how many annotations it
carries. -/
def Event.stamp (e : Event) : Kind × Location × Nat :=
  (e.kind, e.location, e.count)

/-- No member of the event is an enumeration without values. -/
def Event.Renders (e : Event) : Prop :=
  (∀ s ∈ e.states, s.valueType ≠ .enum []) ∧ ∀ a ∈ e.actions, a.valueType ≠ .enum []

theorem exists_mem_of_map_stamp (h : events.map Event.stamp = others.map Event.stamp) {e : Event}
    (he : e ∈ events) : ∃ other ∈ others, other.stamp = e.stamp := by
  rw [← List.mem_map, ← h]
  exact List.mem_map_of_mem he

theorem HasPlugin.of_map_stamp (h : events.map Event.stamp = others.map Event.stamp)
    (hp : HasPlugin events p) : HasPlugin others p := by
  obtain ⟨e, he, hkind, hpath⟩ := hp
  obtain ⟨other, hother, hstamp⟩ := exists_mem_of_map_stamp h he
  simp only [Event.stamp, Prod.mk.injEq] at hstamp
  exact ⟨other, hother, hstamp.1.trans hkind, hstamp.2.1 ▸ hpath⟩

theorem mem_outputPaths_of_map_stamp (h : events.map Event.stamp = others.map Event.stamp)
    (hp : p ∈ outputPaths events) : p ∈ outputPaths others := by
  obtain ⟨e, he, hkind, hpath⟩ := mem_outputPaths.mp hp
  obtain ⟨other, hother, hstamp⟩ := exists_mem_of_map_stamp h he
  simp only [Event.stamp, Prod.mk.injEq] at hstamp
  exact mem_outputPaths.mpr ⟨other, hother, hstamp.1 ▸ hkind, hstamp.2.1 ▸ hpath⟩

theorem Event.offence?_congr {e other : Event} (h : events.map stamp = others.map stamp)
    (hstamp : e.stamp = other.stamp) : e.offence? events = other.offence? others := by
  have hmodule : (∃ e ∈ events, e.kind = .module) ↔ ∃ e ∈ others, e.kind = .module := by
    have hkind : ∀ es : List Event,
        (∃ e ∈ es, e.kind = .module) ↔ ∃ s ∈ es.map stamp, s.1 = .module := by simp [stamp]
    rw [hkind, hkind, h]
  have hplugin : ∀ p, HasPlugin events p ↔ HasPlugin others p :=
    fun p => ⟨.of_map_stamp h, .of_map_stamp h.symm⟩
  simp only [stamp, Prod.mk.injEq] at hstamp
  obtain ⟨hkind, hlocation, hcount⟩ := hstamp
  simp only [offence?, hkind, hlocation, hcount, hmodule, hplugin]

theorem Unoffending.of_map_stamp (h : events.map Event.stamp = others.map Event.stamp)
    (hevents : Unoffending events) : Unoffending others := by
  rintro before event after rfl
  rw [List.map_append, List.map_cons, List.map_eq_append_iff] at h
  obtain ⟨before', rest, rfl, hbefore, hrest⟩ := h
  obtain ⟨event', after', rfl, hevent, -⟩ := List.map_eq_cons_iff.mp hrest
  rw [← Event.offence?_congr hbefore hevent]
  exact hevents before' event' after' rfl

/-- A file has a text when a plugin is declared for it and its events have lines. -/
theorem fileFault?_eq_none_iff : fileFault? events p = none ↔
    HasPlugin events p ∧ ∀ e ∈ eventsAt events p, e.Renders := by
  have hmembers : memberFault? (statesAt events p) (actionsAt events p) = none ↔
      ∀ e ∈ eventsAt events p, e.Renders := by
    simp only [memberFault?, Option.or_eq_none_iff, Option.map_eq_none_iff, List.find?_eq_none,
      statesAt, actionsAt, List.mem_flatMap, Event.Renders, decide_eq_true_eq]
    refine ⟨fun h e he => ⟨fun s hs => h.1 s ⟨e, he, hs⟩, fun a ha => h.2 a ⟨e, he, ha⟩⟩,
      fun h => ⟨?_, ?_⟩⟩
    · rintro s ⟨e, he, hs⟩
      exact (h e he).1 s hs
    · rintro a ⟨e, he, ha⟩
      exact (h e he).2 a ha
  rw [fileFault?, ← hmembers]
  by_cases hplugin : HasPlugin events p <;> simp [hplugin]

/-- A stream that generates files does so with other value types, whatever they are, if they have
expressions. -/
theorem exists_generate_of_retyped (h : events.map Event.stamp = others.map Event.stamp)
    (hothers : ∀ e ∈ others, e ∈ events ∨ e.Renders) (hfiles : generate events = .ok files) :
    ∃ files, generate others = .ok files := by
  rw [generate_eq_bind] at hfiles
  obtain ⟨b, hrun, hrender⟩ := bind_eq_ok_iff.mp hfiles
  have hholds : b.Holds events := Build.holds_start.foldlM hrun
  have hfaults := hholds.exists_renderAll_iff.mp ⟨files, hrender⟩
  obtain ⟨b', hrun'⟩ := Build.exists_foldlM_accept_iff.mpr
    ((Build.exists_foldlM_accept_iff.mp ⟨b, hrun⟩).of_map_stamp h)
  have hholds' : b'.Holds others := Build.holds_start.foldlM hrun'
  obtain ⟨files', hrender'⟩ := hholds'.exists_renderAll_iff.mpr fun p hp => by
    obtain ⟨hplugin, hevents⟩ :=
      fileFault?_eq_none_iff.mp (hfaults p (mem_outputPaths_of_map_stamp h.symm hp))
    refine fileFault?_eq_none_iff.mpr ⟨hplugin.of_map_stamp h, fun e he => ?_⟩
    obtain ⟨hmem, hfeeds⟩ := List.mem_filter.mp he
    rcases hothers e hmem with hold | hnew
    · exact hevents e (List.mem_filter.mpr ⟨hold, hfeeds⟩)
    · exact hnew
  refine ⟨files', ?_⟩
  rw [generate_eq_bind]
  exact bind_eq_ok_iff.mpr ⟨b', hrun', hrender'⟩

/-! ## Parts of a text -/

/-- One text stands in another. -/
def Includes (text part : String) : Prop :=
  ∃ front back, text = front ++ part ++ back

theorem Includes.before {text part : String} (h : Includes text part) (front : String) :
    Includes (front ++ text) part := by
  obtain ⟨front', back, rfl⟩ := h
  exact ⟨front ++ front', back, by simp only [String.append_assoc]⟩

theorem Includes.behind {text part : String} (h : Includes text part) (back : String) :
    Includes (text ++ back) part := by
  obtain ⟨front, back', rfl⟩ := h
  exact ⟨front, back' ++ back, by simp only [String.append_assoc]⟩

/-- Joined lines include the line of each thing that they are for. -/
theorem includes_join {α : Type} {line? : α → Option String} {xs : List α} {x : α}
    {lines : List String} {line : String} (h : xs.mapM line? = some lines) (hx : x ∈ xs)
    (hline : line? x = some line) : Includes (String.join lines) line := by
  obtain ⟨before, after, rfl⟩ := List.append_of_mem hx
  rw [List.mapM_append, List.mapM_cons] at h
  obtain ⟨front, -, h⟩ := Option.bind_eq_some_iff.mp h
  obtain ⟨rest, hrest, h⟩ := Option.bind_eq_some_iff.mp h
  obtain ⟨line', hline', hrest⟩ := Option.bind_eq_some_iff.mp hrest
  obtain rfl : line = line' := Option.some.inj (hline.symm.trans hline')
  obtain ⟨back, -, hback⟩ := Option.bind_eq_some_iff.mp hrest
  obtain rfl : line :: back = rest := Option.some.inj hback
  obtain rfl : front ++ line :: back = lines := Option.some.inj h
  refine ⟨String.join front, String.join back, ?_⟩
  rw [String.join_append, String.join_cons, String.append_assoc]

/-! ## Members of their own events -/

/-- A state or an action that is alone in its event, up to its value type. -/
inductive LoneMember where
  | state (location : Location) (field name description : String)
  | action (location : Location) (method name description : String)

namespace LoneMember

variable {m : LoneMember}

/-- Where the member was found. -/
def location : LoneMember → Location
  | .state location _ _ _ => location
  | .action location _ _ _ => location

/-- The event that reports the member. -/
def event : LoneMember → ValueType → Event
  | .state location field name description, t => .state ⟨location, [⟨field, name, description, t⟩]⟩
  | .action location method name description, t =>
    .action ⟨location, [⟨method, name, description, t⟩]⟩

/-- The line for the member, with the expression for its type. -/
def line : LoneMember → String → String
  | .state _ field name description, type => Template.member "AddState" field name description type
  | .action _ method name description, type =>
    Template.member "AddAction" method name description type

theorem location_event (m : LoneMember) (t : ValueType) : (m.event t).location = m.location := by
  cases m <;> rfl

theorem kind_event_ne (m : LoneMember) (t : ValueType) : (m.event t).kind ≠ .module := by
  cases m <;> exact nofun

theorem stamp_event (m : LoneMember) (t t' : ValueType) :
    (m.event t).stamp = (m.event t').stamp := by
  cases m <;> rfl

theorem renders_event (m : LoneMember) (ht : t ≠ .enum []) : (m.event t).Renders := by
  cases m <;> simp [event, Event.Renders, Event.states, Event.actions, ht]

/-- A stream generates files whatever the type of one member is, enumerations without values
apart. -/
theorem exists_generate (m : LoneMember) {before after : List Event} (ht : t' ≠ .enum [])
    (h : generate (before ++ m.event t :: after) = .ok files) :
    ∃ files, generate (before ++ m.event t' :: after) = .ok files := by
  refine exists_generate_of_retyped ?_ (fun e he => ?_) h
  · rw [List.map_append, List.map_append, List.map_cons, List.map_cons, m.stamp_event t t']
  · rcases List.mem_append.mp he with hbefore | hafter
    · exact .inl (List.mem_append_left _ hbefore)
    · rcases List.mem_cons.mp hafter with rfl | hafter
      · exact .inr (m.renders_event ht)
      · exact .inl (List.mem_append_right _ (List.mem_cons_of_mem _ hafter))

/-! ## Lines -/

/-- The file of a location has a line for every member that was found there. -/
theorem exists_find?_eq (h : generate events = .ok files) (hm : m.event t ∈ events) {type : String}
    (htype : Template.valueType? t = some type) :
    ∃ text, files.find? m.location.outputPath = some (Text.encode text) ∧
      Includes text (m.line type) := by
  have hfeeds : (m.event t).feeds m.location.outputPath = true := by
    rw [feeds_iff_of_kind_ne (m.kind_event_ne t), m.location_event]
    exact Path.order_self _
  have hat : m.event t ∈ eventsAt events m.location.outputPath := List.mem_filter.mpr ⟨hm, hfeeds⟩
  have hkey : m.location.outputPath ∈ files.keys :=
    (mem_keys_generate h).mpr ⟨_, hm, m.kind_event_ne t, by rw [m.location_event]⟩
  cases hfind : files.find? m.location.outputPath with
  | none => exact absurd (Path.order_self _) (PathMap.find?_eq_none_iff.mp hfind _ hkey)
  | some bytes =>
    rw [find?_generate h] at hfind
    obtain ⟨text, htext, rfl⟩ := Option.map_eq_some_iff.mp hfind
    refine ⟨text, rfl, ?_⟩
    obtain ⟨content, hcontent, htext⟩ := Option.bind_eq_some_iff.mp htext
    obtain ⟨first, -, hcontent⟩ := Option.bind_eq_some_iff.mp hcontent
    obtain ⟨plugin, -, hcontent⟩ := Option.bind_eq_some_iff.mp hcontent
    obtain rfl := Option.some.inj hcontent
    obtain ⟨states, hstates, htext⟩ := Option.bind_eq_some_iff.mp htext
    obtain ⟨actions, hactions, htext⟩ := Option.bind_eq_some_iff.mp htext
    obtain rfl := Option.some.inj htext
    cases m with
    | state location field name description =>
      have hs : ⟨field, name, description, t⟩ ∈ statesAt events location.outputPath :=
        List.mem_flatMap.mpr ⟨_, hat, List.mem_singleton_self _⟩
      have hline : Template.stateLine? ⟨field, name, description, t⟩ =
          some (Template.member "AddState" field name description type) := by
        rw [Template.stateLine?, htype]
        rfl
      exact ((((includes_join hstates hs hline).before _).behind _).behind _).behind _
    | action location method name description =>
      have ha : ⟨method, name, description, t⟩ ∈ actionsAt events location.outputPath :=
        List.mem_flatMap.mpr ⟨_, hat, List.mem_singleton_self _⟩
      have hline : Template.actionLine? ⟨method, name, description, t⟩ =
          some (Template.member "AddAction" method name description type) := by
        rw [Template.actionLine?, htype]
        rfl
      exact (((includes_join hactions ha hline).before _).behind _).behind _

end LoneMember

end Registrar
