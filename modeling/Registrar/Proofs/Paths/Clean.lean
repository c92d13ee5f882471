import Mathlib.Data.List.Basic
import Registrar.Build
import Registrar.Proofs.Paths.Destination

/-!
# Cleaned paths

Cleaning leaves the steps to where a path leads: the root or some steps upwards, and names behind
them. Such steps are written in one way only (`Path.components_ofComponents`), so the path of a
generated file is known from its components. Main statements: `Location.outputPath_eq_of_order_eq`,
two locations whose files stand at one place of the order have the same output path, letter by
letter, and `Location.outputPath_routes`, they do so exactly when walks to their directories end at
one destination.
-/

namespace Registrar

namespace Text

theorem split_eq_splitOn (mark : Char) (cs : List Char) : split mark cs = cs.splitOn mark := by
  induction cs with
  | nil => rfl
  | cons c rest ih =>
    rw [split, List.splitOn_cons_eq_if_modifyHead, ← ih]
    by_cases hc : c = mark
    · simp [hc]
    · simp only [hc, if_false, beq_iff_eq]
      rcases hs : split mark rest with _ | ⟨piece, pieces⟩
      · exact absurd hs (split_ne_nil mark rest)
      · rfl

end Text

namespace Path

/-! ## Places of the order -/

theorem Component.rank_injective : Function.Injective Component.rank := by
  intro c d h
  cases c <;> cases d <;> simp only [Component.rank, List.cons.injEq] at h <;> try rfl
  all_goals try omega
  rename_i s t
  have hlist : s.toList = t.toList :=
    (List.map_injective_iff.mpr fun _ _ hc => Char.toNat_inj.mp hc) h.2
  rw [String.toList_inj.mp hlist]

/-- Two paths stand at one place exactly when they take the same steps. -/
theorem order_eq_iff_components_eq {p q : Path} :
    p.order q = .eq ↔ p.components = q.components := by
  rw [order_eq_iff]
  exact (List.map_injective_iff.mpr Component.rank_injective).eq_iff

/-! ## Steps that are written in one way -/

/-- Whether a text can be the name of an entry of a directory. -/
def IsName (text : String) : Prop :=
  text ≠ "" ∧ text ≠ "." ∧ text ≠ ".." ∧ '/' ∉ text.toList

instance (text : String) : Decidable (IsName text) :=
  inferInstanceAs (Decidable (text ≠ "" ∧ text ≠ "." ∧ text ≠ ".." ∧ '/' ∉ text.toList))

/-- A step up or to a name, which has one spelling as a segment. -/
def Component.IsPlain (c : Component) : Prop :=
  c = .parent ∨ ∃ text, c = .name text ∧ IsName text

theorem Component.IsPlain.parent : Component.IsPlain .parent :=
  .inl rfl

theorem Component.IsPlain.name {text : String} (h : IsName text) :
    Component.IsPlain (.name text) :=
  .inr ⟨text, rfl, h⟩

theorem Component.IsPlain.not_idle {c : Component} (h : c.IsPlain) : isIdle c.text = false := by
  rcases h with rfl | ⟨text, rfl, hname⟩
  · rfl
  · simp [isIdle, Component.text, hname.1, hname.2.1]

theorem Component.IsPlain.componentOf {c : Component} (h : c.IsPlain) :
    componentOf c.text = c := by
  rcases h with rfl | ⟨text, rfl, hname⟩
  · rfl
  · simp [Path.componentOf, Component.text, hname.2.2.1]

theorem Component.IsPlain.slash_not_mem {c : Component} (h : c.IsPlain) :
    '/' ∉ c.text.toList := by
  rcases h with rfl | ⟨text, rfl, hname⟩
  · decide
  · exact hname.2.2.2

theorem Component.IsPlain.text_ne {c : Component} (h : c.IsPlain) : c.text ≠ "" ∧ c.text ≠ "." := by
  have := h.not_idle
  simpa [isIdle] using this

/-! ## Writing steps and reading them back -/

theorem slash_not_mem_segments {p : Path} {segment : String} (h : segment ∈ p.segments) :
    '/' ∉ segment.toList := by
  obtain ⟨cs, hcs, rfl⟩ := List.mem_map.mp h
  simpa using Text.mark_not_mem_of_mem_split hcs

theorem segments_slash_append (text : String) :
    segments ⟨"/" ++ text⟩ = "" :: segments ⟨text⟩ := by
  have hsplit : Text.split '/' ("/" ++ text).toList = [] :: Text.split '/' text.toList := by
    rw [String.toList_append]
    rfl
  simp only [segments, hsplit, List.map_cons, String.ofList_nil]

theorem segments_joinSegments {pieces : List String} (hne : pieces ≠ [])
    (h : ∀ piece ∈ pieces, '/' ∉ piece.toList) : segments ⟨joinSegments pieces⟩ = pieces := by
  have hslash : ∀ cs ∈ pieces.map String.toList, '/' ∉ cs := by
    intro cs hcs
    obtain ⟨piece, hpiece, rfl⟩ := List.mem_map.mp hcs
    exact h piece hpiece
  have hchars : (joinSegments pieces).toList = ['/'].intercalate (pieces.map String.toList) := by
    rw [joinSegments, String.toList_intercalate]
    rfl
  rw [segments, Text.split_eq_splitOn, hchars,
    List.splitOn_intercalate '/' hslash (by simpa using hne), List.map_map]
  simp [Function.comp_def]

theorem head?_segments_of_isAbsolute {p : Path} (h : p.isAbsolute = true) :
    p.segments.head? = some "" := by
  have hhead : p.text.toList.head? = some '/' := by simpa [isAbsolute] using h
  obtain ⟨rest, hrest⟩ : ∃ rest, p.text.toList = '/' :: rest := by
    cases hcs : p.text.toList with
    | nil => simp [hcs] at hhead
    | cons c rest =>
      rw [hcs] at hhead
      obtain rfl : c = '/' := by simpa using hhead
      exact ⟨rest, rfl⟩
  rw [segments, hrest, Text.split, if_pos rfl, List.map_cons, List.head?_cons]

theorem filter_map_text {steps : List Component} (h : ∀ c ∈ steps, c.IsPlain) :
    ((steps.map Component.text).filter (!isIdle ·)).map componentOf = steps := by
  induction steps with
  | nil => rfl
  | cons c steps ih =>
    have hc : c.IsPlain := h c (by simp)
    rw [List.map_cons, List.filter_cons_of_pos (by simp [hc.not_idle]), List.map_cons,
      hc.componentOf, ih fun d hd => h d (by simp [hd])]

theorem slash_not_mem_of_plain {steps : List Component} (h : ∀ c ∈ steps, c.IsPlain) :
    ∀ piece ∈ steps.map Component.text, '/' ∉ piece.toList := by
  intro piece hpiece
  obtain ⟨c, hc, rfl⟩ := List.mem_map.mp hpiece
  exact (h c hc).slash_not_mem

/-- Steps without a root are read back from the relative path that takes them. -/
theorem components_joinSegments {steps : List Component} (h : ∀ c ∈ steps, c.IsPlain) :
    components ⟨joinSegments (steps.map Component.text)⟩ = steps := by
  cases steps with
  | nil => rfl
  | cons c steps =>
    have hsegs : segments ⟨joinSegments ((c :: steps).map Component.text)⟩ =
        (c :: steps).map Component.text :=
      segments_joinSegments (by simp) (slash_not_mem_of_plain h)
    have hc := (h c (by simp)).text_ne
    -- a leading slash would make the first segment empty, which no plain step is
    have habs : isAbsolute ⟨joinSegments ((c :: steps).map Component.text)⟩ = false := by
      by_contra habs
      have hhead := head?_segments_of_isAbsolute ((Bool.not_eq_false _).mp habs)
      rw [hsegs] at hhead
      exact hc.1 (by simpa using hhead)
    rw [components, habs, hsegs, filter_map_text h]
    simp [hc.2]

/-- Steps behind the root are read back from the absolute path that takes them. -/
theorem components_slash_joinSegments {steps : List Component} (h : ∀ c ∈ steps, c.IsPlain) :
    components ⟨"/" ++ joinSegments (steps.map Component.text)⟩ = .root :: steps := by
  have habs : isAbsolute ⟨"/" ++ joinSegments (steps.map Component.text)⟩ = true := by
    simp [isAbsolute]
  have hsteps : ((segments ⟨joinSegments (steps.map Component.text)⟩).filter
      (!isIdle ·)).map componentOf = steps := by
    cases steps with
    | nil => rfl
    | cons c steps =>
      rw [segments_joinSegments (by simp) (slash_not_mem_of_plain h), filter_map_text h]
  rw [components, habs, segments_slash_append, List.filter_cons_of_neg (by simp [isIdle]), hsteps]
  rfl

/-- Steps of which only the first may be the root and all others are plain. -/
def Grounded : List Component → Prop
  | .root :: steps => ∀ c ∈ steps, c.IsPlain
  | steps => ∀ c ∈ steps, c.IsPlain

theorem ofComponents_of_plain {steps : List Component} (h : ∀ c ∈ steps, c.IsPlain) :
    ofComponents steps = ⟨joinSegments (steps.map Component.text)⟩ := by
  unfold ofComponents
  split
  · have hroot : Component.IsPlain .root := h .root (by simp)
    rcases hroot with hroot | ⟨text, hroot, -⟩ <;> cases hroot
  · rfl

/-- The path that takes some steps takes these steps and no others. -/
theorem components_ofComponents {steps : List Component} (h : Grounded steps) :
    (ofComponents steps).components = steps := by
  unfold Grounded at h
  split at h
  · exact components_slash_joinSegments h
  · rw [ofComponents_of_plain h]
    exact components_joinSegments h

/-! ## What cleaning leaves -/

/-- A step leads to a name that was there before or is its segment. -/
theorem mem_names_walk {dest : Destination} {segment text : String}
    (h : text ∈ (dest.walk segment).names) :
    text ∈ dest.names ∨ text = segment ∧ isIdle segment = false ∧ segment ≠ ".." := by
  rw [Destination.walk] at h
  split at h
  · exact .inl h
  · next hstay =>
    split at h
    · left
      rcases dest with (_ | ⟨name, names⟩) | ⟨up, _ | ⟨name, names⟩⟩ <;>
        simp_all [Destination.ascend, Destination.names]
    · next hup =>
      have hidle : isIdle segment = false := by simpa [isIdle] using hstay
      rcases dest with names | ⟨up, names⟩
      all_goals
        rcases List.mem_cons.mp h with rfl | h
        · exact .inr ⟨rfl, hidle, hup⟩
        · exact .inl h

theorem isName_of_mem_foldl_walk {segments : List String}
    (hsegments : ∀ segment ∈ segments, '/' ∉ segment.toList) {dest : Destination}
    (hdest : ∀ text ∈ dest.names, IsName text) :
    ∀ text ∈ (segments.foldl Destination.walk dest).names, IsName text := by
  induction segments generalizing dest with
  | nil => exact hdest
  | cons segment segments ih =>
    refine ih (fun other hother => hsegments other (by simp [hother])) fun text htext => ?_
    rcases mem_names_walk htext with htext | ⟨rfl, hidle, hup⟩
    · exact hdest text htext
    · have hne : text ≠ "" ∧ text ≠ "." := by simpa [isIdle] using hidle
      exact ⟨hne.1, hne.2, hup, hsegments text (by simp)⟩

/-- A path leads to a destination that names tell. -/
theorem isName_of_mem_destination (p : Path) : ∀ text ∈ p.destination.names, IsName text := by
  refine isName_of_mem_foldl_walk (fun _ hsegment => slash_not_mem_segments hsegment) ?_
  split <;> simp [Destination.names]

theorem grounded_steps {dest : Destination} (hnames : ∀ text ∈ dest.names, IsName text) :
    Grounded dest.steps := by
  have hplain : ∀ c ∈ dest.names.reverse.map Component.name, c.IsPlain := by
    intro c hc
    obtain ⟨text, htext, rfl⟩ := List.mem_map.mp hc
    exact .name (hnames text (by simpa using htext))
  rcases dest with names | ⟨up, names⟩
  · exact hplain
  · have hall : ∀ c ∈ (Destination.belowStart up names).steps, c.IsPlain := by
      intro c hc
      rcases List.mem_append.mp hc with hc | hc
      · rw [List.eq_of_mem_replicate hc]
        exact .parent
      · exact hplain c hc
    unfold Grounded
    split
    · next steps heq => exact fun c hc => hall c (by simp [heq, hc])
    · exact hall

/-! ## The path of a generated file -/

theorem joinSegments_append {pieces : List String} (hne : pieces ≠ []) (last : String) :
    joinSegments (pieces ++ [last]) = joinSegments pieces ++ "/" ++ last := by
  rw [joinSegments, String.intercalate_append_of_ne_nil hne (by simp),
    String.intercalate_singleton]
  rfl

/-- A path of plain steps does not end at a slash. -/
theorem getLast?_joinSegments_ne {steps : List Component} (hne : steps ≠ [])
    (h : ∀ c ∈ steps, c.IsPlain) (front : String) :
    (front ++ joinSegments (steps.map Component.text)).toList.getLast? ≠ some '/' := by
  obtain ⟨before, last, rfl⟩ : ∃ before last, steps = before ++ [last] := by
    simpa using (List.eq_nil_or_concat steps).resolve_left hne
  have hlast : last.IsPlain := h last (by simp)
  have htext : ∃ front', front ++ joinSegments ((before ++ [last]).map Component.text) =
      front' ++ last.text := by
    rcases before with _ | ⟨c, before⟩
    · exact ⟨front, by simp [joinSegments]⟩
    · rw [List.map_append, List.map_singleton, joinSegments_append (by simp)]
      exact ⟨front ++ joinSegments ((c :: before).map Component.text) ++ "/",
        by simp only [String.append_assoc]⟩
  obtain ⟨front', htext⟩ := htext
  have hchars : last.text.toList ≠ [] :=
    fun hnil => hlast.text_ne.1 (String.toList_eq_nil_iff.mp hnil)
  rw [htext, String.toList_append, List.getLast?_append_of_ne_nil _ hchars]
  intro hslash
  exact hlast.slash_not_mem (List.mem_of_getLast? hslash)

theorem Component.IsPlain.isAbsolute_text {c : Component} (h : c.IsPlain) :
    isAbsolute ⟨c.text⟩ = false := by
  have hhead : c.text.toList.head? ≠ some '/' :=
    fun hslash => h.slash_not_mem (List.mem_of_head? hslash)
  simpa [isAbsolute] using hhead

theorem join_of_getLast?_ne {p : Path} {c : Component} (hc : c.IsPlain) (hne : p.text ≠ "")
    (hlast : p.text.toList.getLast? ≠ some '/') : p.join ⟨c.text⟩ = ⟨p.text ++ "/" ++ c.text⟩ := by
  rw [join, hc.isAbsolute_text, if_neg (by simpa using hne), if_neg hlast]

/-- Joining one more step to a path of plain steps takes it behind them. -/
theorem join_ofComponents {steps : List Component} (h : Grounded steps) {c : Component}
    (hc : c.IsPlain) : (ofComponents steps).join ⟨c.text⟩ = ofComponents (steps ++ [c]) := by
  unfold Grounded at h
  split at h
  · next steps =>
    -- the root alone ends at a slash already, and joining writes none
    by_cases hsteps : steps = []
    · subst hsteps
      simp [join, hc.isAbsolute_text, ofComponents, joinSegments]
    · have hlast := getLast?_joinSegments_ne hsteps h "/"
      rw [ofComponents, join_of_getLast?_ne hc (by simp) hlast, List.cons_append, ofComponents,
        List.map_append, List.map_singleton, joinSegments_append (by simpa using hsteps)]
      simp only [String.append_assoc]
  · have hmore : ∀ d ∈ steps ++ [c], d.IsPlain := by
      intro d hd
      rcases List.mem_append.mp hd with hd | hd
      · exact h d hd
      · rwa [List.mem_singleton.mp hd]
    -- no steps are the empty path, which joining leaves out
    by_cases hsteps : steps = []
    · subst hsteps
      rw [ofComponents_of_plain h, ofComponents_of_plain hmore]
      simp [join, joinSegments]
    · have hlast := getLast?_joinSegments_ne hsteps h ""
      rw [String.empty_append] at hlast
      have hne : joinSegments (steps.map Component.text) ≠ "" := by
        intro hempty
        have hback := components_joinSegments h
        rw [hempty] at hback
        exact hsteps hback.symm
      have hjoin := join_of_getLast?_ne (p := ⟨joinSegments (steps.map Component.text)⟩) hc hne
        hlast
      rw [ofComponents_of_plain h, ofComponents_of_plain hmore, hjoin, List.map_append,
        List.map_singleton, joinSegments_append (by simpa using hsteps)]

end Path

theorem isName_generatedFileName : Path.IsName generatedFileName := by
  decide

/-- The steps to the generated file of a location. -/
def Location.outputSteps (l : Location) : List Path.Component :=
  Path.cleanSteps l.dir.components ++ [.name generatedFileName]

/-- The generated file stands one name below its directory. -/
theorem Location.outputSteps_eq (l : Location) :
    l.outputSteps = (l.dir.destination.descend generatedFileName).steps := by
  rw [outputSteps, Path.cleanSteps_components, Destination.steps_descend]

theorem Location.grounded_outputSteps (l : Location) : Path.Grounded l.outputSteps := by
  rw [outputSteps_eq]
  refine Path.grounded_steps fun text htext => ?_
  have hname : text = generatedFileName ∨ text ∈ l.dir.destination.names := by
    cases hdest : l.dir.destination <;>
      simpa [hdest, Destination.descend, Destination.names] using htext
  rcases hname with rfl | htext
  · exact isName_generatedFileName
  · exact l.dir.isName_of_mem_destination text htext

/-- The output path is written from the steps to it. -/
theorem Location.outputPath_eq_ofComponents (l : Location) :
    l.outputPath = Path.ofComponents l.outputSteps := by
  have hgrounded : Path.Grounded (Path.cleanSteps l.dir.components) := by
    rw [Path.cleanSteps_components]
    exact Path.grounded_steps l.dir.isName_of_mem_destination
  exact Path.join_ofComponents hgrounded (.name isName_generatedFileName)

theorem Location.components_outputPath (l : Location) :
    l.outputPath.components = l.outputSteps := by
  rw [outputPath_eq_ofComponents, Path.components_ofComponents l.grounded_outputSteps]

/-- Output paths at one place of the order are one text. -/
theorem Location.outputPath_eq_of_order_eq {l m : Location}
    (h : l.outputPath.order m.outputPath = .eq) : l.outputPath = m.outputPath := by
  have hsteps : l.outputSteps = m.outputSteps := by
    rw [← components_outputPath, ← components_outputPath]
    exact Path.order_eq_iff_components_eq.mp h
  rw [outputPath_eq_ofComponents, outputPath_eq_ofComponents, hsteps]

/-- Output paths take the same steps when their directories are one destination. -/
theorem Location.components_outputPath_eq_iff {l m : Location} :
    l.outputPath.components = m.outputPath.components ↔ l.dir.destination = m.dir.destination := by
  rw [components_outputPath, components_outputPath, outputSteps, outputSteps,
    List.append_cancel_right_eq, Path.cleanSteps_components, Path.cleanSteps_components]
  exact Destination.steps_injective.eq_iff

/-- Routing is by directory. Two locations have output paths of the same components exactly when
walks to their directories end at one destination, such paths are one text, and what was stored for
one location is found for the other in this case only. -/
theorem Location.outputPath_routes (l m : Location) :
    (l.outputPath.components = m.outputPath.components ↔ l.dir.destination = m.dir.destination) ∧
      (l.outputPath = m.outputPath ↔ l.outputPath.components = m.outputPath.components) ∧
        ∀ (b : Build) (d : Draft), (b.store l d).draft? m.outputPath =
          if l.dir.destination = m.dir.destination then some d else b.draft? m.outputPath := by
  refine ⟨components_outputPath_eq_iff, ⟨congrArg Path.components, fun h => ?_⟩, fun b d => ?_⟩
  · exact outputPath_eq_of_order_eq (Path.order_eq_iff_components_eq.mpr h)
  · rw [Build.store, Build.draft?, PathMap.find?_insert]
    simp only [Path.order_eq_iff_components_eq, components_outputPath_eq_iff]
    rfl

end Registrar
