import Mathlib.Data.List.DropRight
import Registrar.Proofs.Paths.Resolve

/-!
# Cleaning as a canonical form

Cleaning writes a path in the one way that leads to its place: names, and in front of them nothing
but the root or some steps upwards (`Path.IsClean`). Such paths are their own results
(`Path.clean_eq_self_iff`). What is joined to a path leads to a place that the place of the path
decides, so the path may be cleaned before or after.

While the components are taken, the path grows and shrinks as text. `Path.Buffer` is the loop on
that text: a name is pushed, and a step upwards pops as long as the depth counts any name. Between
two steps the names of the buffer stand last and the depth counts them (`Path.Buffer.Sound`), so a
name is all that is ever popped. Main statement: `Path.clean_canonical`.
-/

namespace Registrar

namespace Path

/-! ## The directory of a path -/

theorem dropIdleEnd_of_not_idle {pieces : List String} (h : ∀ s ∈ pieces, isIdle s = false) :
    dropIdleEnd pieces = pieces := by
  refine List.rdropWhile_eq_self_iff.mpr fun hne => ?_
  simp [h _ (List.getLast_mem hne)]

theorem segmentsBefore?_concat {pieces : List String} {last : String}
    (h : ∀ s ∈ pieces ++ [last], isIdle s = false) :
    segmentsBefore? (pieces ++ [last]) = some pieces := by
  rw [segmentsBefore?, dropIdleEnd_of_not_idle h]
  cases hpieces : pieces ++ [last] with
  | nil => simp at hpieces
  | cons first rest =>
    simp only [← hpieces, List.dropLast_concat]
    rw [dropIdleEnd_of_not_idle fun s hs => h s (List.mem_append_left _ hs)]

theorem not_idle_of_plain {steps : List Component} (h : ∀ c ∈ steps, c.IsPlain) :
    ∀ s ∈ steps.map Component.text, isIdle s = false := by
  intro s hs
  obtain ⟨c, hc, rfl⟩ := List.mem_map.mp hs
  exact (h c hc).not_idle

theorem isAbsolute_iff_root_mem {p : Path} : p.isAbsolute = true ↔ .root ∈ p.components := by
  have hsteps : .root ∉ (p.segments.filter (!isIdle ·)).map componentOf := by
    intro hroot
    obtain ⟨segment, -, hsegment⟩ := List.mem_map.mp hroot
    rw [componentOf] at hsegment
    split_ifs at hsegment
  rw [components]
  split_ifs with habsolute
  · simp [habsolute]
  · simp [habsolute, hsteps]
  · simp [habsolute, hsteps]

section Parents

variable {steps : List Component} {c : Component} (h : ∀ d ∈ steps ++ [c], d.IsPlain)

include h

theorem segments_joinSegments_concat :
    segments ⟨joinSegments ((steps ++ [c]).map Component.text)⟩ =
      steps.map Component.text ++ [c.text] := by
  rw [segments_joinSegments (by simp) (slash_not_mem_of_plain h), List.map_append,
    List.map_singleton]

theorem segmentsBefore?_text :
    segmentsBefore? (steps.map Component.text ++ [c.text]) = some (steps.map Component.text) := by
  refine segmentsBefore?_concat ?_
  rw [← List.map_singleton, ← List.map_append]
  exact not_idle_of_plain h

theorem parent_slash_joinSegments :
    parent ⟨"/" ++ joinSegments ((steps ++ [c]).map Component.text)⟩ =
      some ⟨"/" ++ joinSegments (steps.map Component.text)⟩ := by
  have habsolute : isAbsolute ⟨"/" ++ joinSegments ((steps ++ [c]).map Component.text)⟩ = true := by
    simp [isAbsolute]
  rw [parent, if_pos habsolute, segments_slash_append, List.tail_cons,
    segments_joinSegments_concat h, segmentsBefore?_text h]
  rfl

theorem parent_joinSegments :
    parent ⟨joinSegments ((steps ++ [c]).map Component.text)⟩ =
      some ⟨joinSegments (steps.map Component.text)⟩ := by
  have hcomponents := components_joinSegments h
  have habsolute :
      ¬ isAbsolute ⟨joinSegments ((steps ++ [c]).map Component.text)⟩ = true := by
    rw [isAbsolute_iff_root_mem, hcomponents]
    exact fun hroot => by rcases h _ hroot with hroot | ⟨_, hroot, -⟩ <;> cases hroot
  have hdot : (steps.map Component.text ++ [c.text]).head? ≠ some "." := by
    intro hdot
    rw [← List.map_singleton, ← List.map_append] at hdot
    exact absurd (not_idle_of_plain h _ (List.mem_of_head? hdot)) (by decide)
  rw [parent, if_neg habsolute, segments_joinSegments_concat h, if_neg hdot,
    segmentsBefore?_text h]
  rfl

end Parents

end Path

namespace Destination

open Registrar.Path (IsName Component)

variable {dest : Destination} {name : String} {step : Component}

/-! ## Where a step leads -/

/-- Takes a step. -/
def follow (dest : Destination) : Component → Destination
  | .root => .belowRoot []
  | .current => dest
  | .parent => dest.ascend
  | .name text => dest.descend text

/-- The names on the way to a destination can be names of entries. -/
def Named (dest : Destination) : Prop :=
  ∀ text ∈ dest.names, IsName text

theorem Named.follow (h : dest.Named) (hstep : step = .current ∨ step.IsPlain) :
    (dest.follow step).Named := by
  rcases hstep with rfl | rfl | ⟨text, rfl, htext⟩
  · exact h
  · rcases dest with (_ | ⟨name, names⟩) | ⟨up, _ | ⟨name, names⟩⟩
    · exact h
    · exact fun other hother => h other (List.mem_cons_of_mem _ hother)
    · exact h
    · exact fun other hother => h other (List.mem_cons_of_mem _ hother)
  · rcases dest with names | ⟨up, names⟩ <;> exact List.forall_mem_cons.mpr ⟨htext, h⟩

/-- A walk from the start of a relative path does not get to the root. -/
theorem exists_foldl_walk_belowStart (segments : List String) (up : Nat) (names : List String) :
    ∃ up' later, segments.foldl walk (.belowStart up names) = .belowStart up' later := by
  induction segments generalizing up names with
  | nil => exact ⟨up, names, rfl⟩
  | cons segment segments ih =>
    rw [List.foldl_cons, walk]
    split_ifs
    · exact ih up names
    · cases names with
      | nil => exact ih (up + 1) []
      | cons name names => exact ih up names
    · exact ih up (segment :: names)

theorem root_mem_steps_iff : .root ∈ dest.steps ↔ ∃ names, dest = .belowRoot names := by
  cases dest <;> simp [steps, start]

/-- The steps of a relative path are plain. -/
theorem Named.plain {up : Nat} {names : List String} (h : (belowStart up names).Named) :
    ∀ c ∈ (belowStart up names).steps, c.IsPlain := by
  have hgrounded := Path.grounded_steps h
  unfold Path.Grounded at hgrounded
  split at hgrounded
  · next steps hroot =>
    obtain ⟨_, ⟨⟩⟩ := root_mem_steps_iff.mp (hroot ▸ List.mem_cons_self)
  · exact hgrounded

theorem parent_descend (h : (dest.descend name).Named) :
    (Path.ofComponents (dest.descend name).steps).parent = some (Path.ofComponents dest.steps) := by
  rcases dest with names | ⟨up, names⟩
  · have hgrounded := Path.grounded_steps h
    have hsteps : (descend name (.belowRoot names)).steps =
        .root :: (names.reverse.map Component.name ++ [.name name]) := by
      simp [steps, descend, start, Destination.names]
    rw [hsteps] at hgrounded ⊢
    exact Path.parent_slash_joinSegments hgrounded
  · have hplain : ∀ c ∈ (descend name (belowStart up names)).steps, c.IsPlain := Named.plain h
    rw [steps_descend] at hplain ⊢
    rw [Path.ofComponents_of_plain hplain,
      Path.ofComponents_of_plain fun c hc => hplain c (List.mem_append_left _ hc)]
    exact Path.parent_joinSegments hplain

end Destination

namespace Path

/-! ## The loop on text -/

/-- A path that is being written, and how many of its names may still be undone. -/
structure Buffer where
  path : Path
  depth : Nat

namespace Buffer

variable {b : Buffer}

/-- Nothing written yet. -/
def empty : Buffer :=
  ⟨⟨""⟩, 0⟩

/-- Takes one more step. A step is pushed behind the path, and what is popped is its last
component. -/
def take (b : Buffer) : Component → Buffer
  | .current => b
  | .parent =>
    if 0 < b.depth then ⟨b.path.parent.getD b.path, b.depth - 1⟩
    else if b.path.isAbsolute then b
    else ⟨b.path.join ⟨".."⟩, b.depth⟩
  | .name text => ⟨b.path.join ⟨text⟩, b.depth + 1⟩
  | .root => ⟨b.path.join ⟨"/"⟩, b.depth⟩

theorem take_parent_of_pos {rest : Path} (hdepth : 0 < b.depth) (hpop : b.path.parent = some rest) :
    b.take .parent = ⟨rest, b.depth - 1⟩ := by
  rw [take, if_pos hdepth, hpop]
  rfl

theorem take_parent_of_isAbsolute (hdepth : b.depth = 0) (h : b.path.isAbsolute = true) :
    b.take .parent = b := by
  rw [take, if_neg (by omega), if_pos h]

theorem take_parent_of_isRelative (hdepth : b.depth = 0) (h : ¬ b.path.isAbsolute = true) :
    b.take .parent = ⟨b.path.join ⟨".."⟩, b.depth⟩ := by
  rw [take, if_neg (by omega), if_neg h]

/-- The names of the path stand last and the depth counts them. So the component that is popped
while the depth counts any is a name. -/
structure Sound (b : Buffer) : Prop where
  depth : ∃ (front : List Component) (names : List String),
    b.path.components = front ++ names.map .name ∧ (∀ c ∈ front, c = .root ∨ c = .parent) ∧
      b.depth = names.length
  pop : 0 < b.depth → ∃ rest name, b.path.parent = some rest ∧
    b.path.components = rest.components ++ [.name name]

end Buffer

end Path

namespace Destination

open Registrar.Path (Component Buffer)

variable {dest : Destination} {step : Component}

/-- The path to a destination, with all its names still to be undone. -/
def buffer (dest : Destination) : Buffer :=
  ⟨Path.ofComponents dest.steps, dest.names.length⟩

theorem isAbsolute_ofComponents_steps (h : dest.Named) :
    (Path.ofComponents dest.steps).isAbsolute = true ↔ ∃ names, dest = .belowRoot names := by
  rw [Path.isAbsolute_iff_root_mem, Path.components_ofComponents (Path.grounded_steps h),
    root_mem_steps_iff]

/-- A step of the loop on text leads where the step leads. -/
theorem take_buffer (h : dest.Named) (hstep : step = .current ∨ step.IsPlain) :
    dest.buffer.take step = (dest.follow step).buffer := by
  rcases hstep with rfl | rfl | ⟨text, rfl, htext⟩
  · rfl
  · have hrooted := isAbsolute_ofComponents_steps h
    rcases dest with (_ | ⟨name, names⟩) | ⟨up, _ | ⟨name, names⟩⟩
    · -- at the root there is nothing to undo
      exact Buffer.take_parent_of_isAbsolute rfl (hrooted.mpr ⟨[], rfl⟩)
    · exact Buffer.take_parent_of_pos (Nat.succ_pos _) (@parent_descend (.belowRoot names) name h)
    · -- without a root the step upwards is pushed
      have hjoin := Path.join_ofComponents (Path.grounded_steps h) .parent
      have hsteps : (belowStart up []).steps ++ [.parent] = (belowStart (up + 1) []).steps := by
        simp [steps, start, names, List.replicate_succ']
      have hrelative : ¬ (belowStart up []).buffer.path.isAbsolute = true := by
        intro habsolute
        obtain ⟨_, ⟨⟩⟩ := hrooted.mp habsolute
      rw [hsteps] at hjoin
      rw [Buffer.take_parent_of_isRelative rfl hrelative]
      exact congrArg (Buffer.mk · 0) hjoin
    · exact Buffer.take_parent_of_pos (Nat.succ_pos _)
        (@parent_descend (.belowStart up names) name h)
  · have hjoin := Path.join_ofComponents (Path.grounded_steps h) (.name htext)
    have hdepth : (dest.descend text).names.length = dest.names.length + 1 := by
      cases dest <;> rfl
    rw [← steps_descend] at hjoin
    exact congrArg₂ Buffer.mk hjoin hdepth.symm

/-- The path to a destination has its names last, and nothing else is popped. -/
theorem sound_buffer (h : dest.Named) : dest.buffer.Sound := by
  have hcomponents := Path.components_ofComponents (Path.grounded_steps h)
  refine ⟨⟨dest.start, dest.names.reverse, hcomponents, ?_, ?_⟩, ?_⟩
  · cases dest <;> simp [start]
  · simp [buffer]
  · intro hdepth
    obtain ⟨rest, name, rfl, hrest⟩ : ∃ rest name, dest = descend name rest ∧ rest.Named := by
      rcases dest with (_ | ⟨name, names⟩) | ⟨up, _ | ⟨name, names⟩⟩
      · simp [buffer, names] at hdepth
      · exact ⟨.belowRoot names, name, rfl, fun text htext => h text (List.mem_cons_of_mem _ htext)⟩
      · simp [buffer, names] at hdepth
      · exact ⟨.belowStart up names, name, rfl,
          fun text htext => h text (List.mem_cons_of_mem _ htext)⟩
    refine ⟨_, name, parent_descend h, ?_⟩
    rw [Path.components_ofComponents (Path.grounded_steps hrest), ← steps_descend]
    exact hcomponents

end Destination

namespace Path

variable {c : Cleaned} {b : Buffer} {dest : Destination} {step : Component}

theorem Cleaned.StandsAt.follow (h : c.StandsAt dest) (hstep : step = .current ∨ step.IsPlain) :
    (c.take step).StandsAt (dest.follow step) := by
  rcases hstep with rfl | rfl | ⟨text, rfl, -⟩
  · exact h
  · have hup : isIdle ".." = false := by decide
    simpa [componentOf, Destination.walk, Destination.follow] using h.take hup
  · exact h.descend text

/-- The steps kept, the text written and the destination say the same. -/
def Cleaned.Tracks (c : Cleaned) (b : Buffer) : Prop :=
  ∃ dest : Destination, c.StandsAt dest ∧ dest.Named ∧ b = dest.buffer

theorem Cleaned.Tracks.take (h : c.Tracks b) (hstep : step = .current ∨ step.IsPlain) :
    (c.take step).Tracks (b.take step) := by
  obtain ⟨dest, hstands, hnamed, rfl⟩ := h
  exact ⟨dest.follow step, hstands.follow hstep, hnamed.follow hstep,
    Destination.take_buffer hnamed hstep⟩

theorem Cleaned.Tracks.foldl {steps : List Component} (h : c.Tracks b)
    (hsteps : ∀ step ∈ steps, step = .current ∨ step.IsPlain) :
    (steps.foldl Cleaned.take c).Tracks (steps.foldl Buffer.take b) := by
  induction steps generalizing c b with
  | nil => exact h
  | cons step steps ih =>
    obtain ⟨hstep, hsteps⟩ := List.forall_mem_cons.mp hsteps
    exact ih (h.take hstep) hsteps

/-- The root comes first, and all other components stay, go upwards or are names. -/
theorem components_cases (p : Path) :
    ∃ steps : List Component, (∀ step ∈ steps, step = .current ∨ step.IsPlain) ∧
      (p.components = .root :: steps ∨ p.components = steps) := by
  have hsteps : ∀ step ∈ (p.segments.filter (!isIdle ·)).map componentOf, step.IsPlain := by
    intro step hstep
    obtain ⟨segment, hsegment, rfl⟩ := List.mem_map.mp hstep
    obtain ⟨hmem, hidle⟩ := List.mem_filter.mp hsegment
    have hne : segment ≠ "" ∧ segment ≠ "." := by simpa [isIdle] using hidle
    rw [componentOf]
    split_ifs with hup
    · exact .parent
    · exact .name ⟨hne.1, hne.2, hup, slash_not_mem_segments hmem⟩
  rw [components]
  split_ifs
  · exact ⟨_, fun step hstep => .inr (hsteps step hstep), .inl rfl⟩
  · exact ⟨_, List.forall_mem_cons.mpr ⟨.inl rfl, fun step hstep => .inr (hsteps step hstep)⟩,
      .inr rfl⟩
  · exact ⟨_, fun step hstep => .inr (hsteps step hstep), .inr rfl⟩

/-- At every step of the loop the steps kept and the text written say the same. -/
theorem tracks_of_prefix {p : Path} {front : List Component} (h : front <+: p.components) :
    (front.foldl Cleaned.take ⟨[], 0⟩).Tracks (front.foldl Buffer.take .empty) := by
  have hstart : Cleaned.Tracks ⟨[], 0⟩ .empty :=
    ⟨.belowStart 0 [], ⟨rfl, rfl⟩, by simp [Destination.Named, Destination.names], rfl⟩
  have hroot : Cleaned.Tracks ⟨[.root], 0⟩ (Buffer.empty.take .root) :=
    ⟨.belowRoot [], ⟨rfl, rfl⟩, by simp [Destination.Named, Destination.names], rfl⟩
  obtain ⟨steps, hsteps, hp | hp⟩ := p.components_cases
  · rw [hp] at h
    cases front with
    | nil => exact hstart
    | cons first front =>
      obtain ⟨rfl, hfront⟩ := List.cons_prefix_cons.mp h
      exact hroot.foldl fun step hstep => hsteps step (hfront.subset hstep)
  · rw [hp] at h
    exact hstart.foldl fun step hstep => hsteps step (h.subset hstep)

/-! ## Clean paths -/

/-- The texts of a path behind the root, of which the root alone and the empty path have none. -/
def parts (p : Path) : List String :=
  let segments := if p.isAbsolute then p.segments.tail else p.segments
  if segments = [""] then [] else segments

/-- A path that is written in the one way that leads to its place. -/
structure IsClean (p : Path) : Prop where
  no_empty : "" ∉ p.parts
  no_current : "." ∉ p.parts
  leading_parents : ∃ up names, p.parts = List.replicate up ".." ++ names ∧ ".." ∉ names
  no_parent_of_root : p.isAbsolute = true → ".." ∉ p.parts
  no_trailing_slash : p.text.toList.getLast? = some '/' → p.text = "/"

/-- The texts of plain steps are the segments of the path that takes them. Without a step there is
the empty segment alone. -/
theorem segments_joinSegments_plain {steps : List Component} (h : ∀ c ∈ steps, c.IsPlain) :
    (if segments ⟨joinSegments (steps.map Component.text)⟩ = [""] then []
      else segments ⟨joinSegments (steps.map Component.text)⟩) = steps.map Component.text := by
  cases steps with
  | nil => rfl
  | cons step steps =>
    have hne : step.text ≠ "" := (h step List.mem_cons_self).text_ne.1
    rw [segments_joinSegments (by simp) (slash_not_mem_of_plain h), if_neg]
    simp [hne]

theorem getLast?_ofComponents_ne {steps : List Component} (h : Grounded steps)
    (hslash : (ofComponents steps).text.toList.getLast? = some '/') :
    (ofComponents steps).text = "/" := by
  unfold Grounded at h
  split at h
  · next steps =>
    by_cases hne : steps = []
    · subst hne
      rfl
    · exact absurd hslash (getLast?_joinSegments_ne hne h "/")
  · rw [ofComponents_of_plain h] at hslash ⊢
    by_cases hne : steps = []
    · subst hne
      simp [joinSegments] at hslash
    · have hlast := getLast?_joinSegments_ne hne h ""
      rw [String.empty_append] at hlast
      exact absurd hslash hlast

end Path

namespace Destination

open Registrar.Path (IsName)

variable {dest : Destination}

/-- Steps upwards stand in front of the names, and none below the root. -/
theorem parts_ofComponents_steps (h : dest.Named) :
    (Path.ofComponents dest.steps).parts =
      List.replicate (dest.start.count .parent) ".." ++ dest.names.reverse := by
  have hparent : Path.Component.text .parent = ".." := rfl
  have hname : Path.Component.text ∘ Path.Component.name = id := rfl
  rcases dest with names | ⟨up, names⟩
  · have habsolute := (isAbsolute_ofComponents_steps h).mpr ⟨names, rfl⟩
    have hparts := Path.segments_joinSegments_plain (Path.grounded_steps h)
    rw [Path.parts, if_pos habsolute]
    simpa [steps, start, Destination.names, Path.ofComponents, Path.segments_slash_append, hname]
      using hparts
  · have hplain := h.plain
    have hrelative : ¬ (Path.ofComponents (belowStart up names).steps).isAbsolute = true := by
      rw [isAbsolute_ofComponents_steps h]
      rintro ⟨_, ⟨⟩⟩
    have hparts := Path.segments_joinSegments_plain hplain
    rw [Path.parts, if_neg hrelative, Path.ofComponents_of_plain hplain]
    simpa [steps, start, Destination.names, hname, hparent] using hparts

theorem Named.isClean (h : dest.Named) : (Path.ofComponents dest.steps).IsClean := by
  have hnames : ∀ text ∈ dest.names.reverse, IsName text :=
    fun text htext => h text (List.mem_reverse.mp htext)
  have hparts := parts_ofComponents_steps h
  constructor
  · rw [hparts]
    simpa using fun hmem => (h _ hmem).1 rfl
  · rw [hparts]
    simpa using fun hmem => (h _ hmem).2.1 rfl
  · exact ⟨_, _, hparts, fun hup => (hnames _ hup).2.2.1 rfl⟩
  · intro habsolute
    obtain ⟨names, rfl⟩ := (isAbsolute_ofComponents_steps h).mp habsolute
    rw [hparts]
    simpa [start] using fun hmem => (h _ hmem).2.2.1 rfl
  · exact Path.getLast?_ofComponents_ne (Path.grounded_steps h)

end Destination

namespace Path

variable {p q : Path}

theorem named_destination (p : Path) : p.destination.Named :=
  p.isName_of_mem_destination

theorem clean_eq (p : Path) : p.clean = ofComponents p.destination.steps := by
  rw [clean, cleanSteps_components]

theorem isClean_clean (p : Path) : p.clean.IsClean := by
  rw [clean_eq]
  exact p.named_destination.isClean

theorem exists_destination_iff_isAbsolute :
    (∃ names, p.destination = .belowRoot names) ↔ p.isAbsolute = true := by
  constructor
  · rintro ⟨names, hnames⟩
    by_contra hrelative
    obtain ⟨up, later, hstart⟩ := Destination.exists_foldl_walk_belowStart p.segments 0 []
    rw [destination, if_neg hrelative, hstart] at hnames
    cases hnames
  · exact exists_destination_of_isAbsolute

theorem isAbsolute_clean (p : Path) : p.clean.isAbsolute = p.isAbsolute := by
  rw [Bool.eq_iff_iff, clean_eq, Destination.isAbsolute_ofComponents_steps p.named_destination,
    exists_destination_iff_isAbsolute]

/-- A clean path leads where the path leads that it was cleaned from. -/
theorem destination_clean (p : Path) : p.clean.destination = p.destination :=
  destination_of_components p.components_clean

theorem clean_join_clean (p q : Path) : (p.join q).clean = (p.clean.join q).clean := by
  rw [clean_eq_iff]
  cases hq : q.isAbsolute with
  | true => simp [join, hq]
  | false => rw [destination_join _ hq, destination_join _ hq, destination_clean]

theorem clean_clean (p : Path) : p.clean.clean = p.clean := by
  rw [clean_eq_iff, destination_clean]

/-! ### Clean paths are their own results -/

theorem joinSegments_segments (p : Path) : joinSegments p.segments = p.text := by
  apply String.toList_injective
  have hpieces : p.segments.map String.toList = p.text.toList.splitOn '/' := by
    rw [← Text.split_eq_splitOn, segments, List.map_map]
    simp [Function.comp_def]
  rw [joinSegments, String.toList_intercalate, hpieces]
  exact List.intercalate_splitOn '/'

/-- A path is told by its parts and by whether the root stands in front of them. -/
theorem text_eq_parts (p : Path) :
    p.text = (if p.isAbsolute then "/" else "") ++ joinSegments p.parts := by
  have hempty : ∀ pieces : List String,
      joinSegments (if pieces = [""] then [] else pieces) = joinSegments pieces := by
    intro pieces
    split_ifs with hpieces
    · rw [hpieces]
      rfl
    · rfl
  rw [parts, hempty]
  cases habsolute : p.isAbsolute with
  | false => simp [joinSegments_segments]
  | true =>
    have hhead : p.text.toList.head? = some '/' := by simpa [isAbsolute] using habsolute
    obtain ⟨rest, rfl⟩ : ∃ rest, p = ⟨"/" ++ rest⟩ := by
      obtain ⟨cs, hcs⟩ := List.head?_eq_some_iff.mp hhead
      exact ⟨String.ofList cs, congrArg Path.mk (String.toList_injective (by simp [hcs]))⟩
    rw [if_pos rfl, if_pos rfl, segments_slash_append, List.tail_cons, joinSegments_segments]

theorem mem_segments_of_mem_parts {segment : String} (h : segment ∈ p.parts) :
    segment ∈ p.segments := by
  rw [parts] at h
  split_ifs at h
  · simp at h
  · exact List.mem_of_mem_tail h
  · simp at h
  · exact h

/-- A clean path is the path to a destination. -/
theorem IsClean.exists_named (h : p.IsClean) :
    ∃ dest : Destination, dest.Named ∧ p = ofComponents dest.steps := by
  obtain ⟨up, names, hparts, hup⟩ := h.leading_parents
  have hnames : ∀ text ∈ names, IsName text := by
    intro text htext
    have hmem : text ∈ p.parts := by
      rw [hparts]
      exact List.mem_append_right _ htext
    exact ⟨fun hempty => h.no_empty (hempty ▸ hmem), fun hdot => h.no_current (hdot ▸ hmem),
      fun hparent => hup (hparent ▸ htext), slash_not_mem_segments (mem_segments_of_mem_parts hmem)⟩
  have hname : Component.text ∘ Component.name = id := rfl
  have htext := p.text_eq_parts
  cases habsolute : p.isAbsolute with
  | true =>
    obtain rfl : up = 0 := by
      by_contra hpos
      exact h.no_parent_of_root habsolute (by simp [hparts, hpos])
    refine ⟨.belowRoot names.reverse, by simpa [Destination.Named, Destination.names], ?_⟩
    calc p = ⟨p.text⟩ := rfl
      _ = ⟨"/" ++ joinSegments names⟩ := by simp [htext, habsolute, hparts]
      _ = ofComponents (Destination.belowRoot names.reverse).steps := by
        simp [Destination.steps, Destination.start, Destination.names, ofComponents, hname]
  | false =>
    have hnamed : (Destination.belowStart up names.reverse).Named := by
      simpa [Destination.Named, Destination.names]
    have hparent : Component.text .parent = ".." := rfl
    refine ⟨.belowStart up names.reverse, hnamed, ?_⟩
    calc p = ⟨p.text⟩ := rfl
      _ = ⟨joinSegments (List.replicate up ".." ++ names)⟩ := by simp [htext, habsolute, hparts]
      _ = ofComponents (Destination.belowStart up names.reverse).steps := by
        rw [ofComponents_of_plain hnamed.plain]
        simp [Destination.steps, Destination.start, Destination.names, hname, hparent]

/-- The clean paths are those that cleaning leaves as they are. -/
theorem clean_eq_self_iff : p.clean = p ↔ p.IsClean := by
  constructor
  · intro h
    exact h ▸ isClean_clean p
  · intro h
    obtain ⟨dest, hnamed, rfl⟩ := h.exists_named
    rw [clean_eq, destination_of_components (components_ofComponents (grounded_steps hnamed))]

/-! ### The loop on text is the loop on steps -/

section Loop

variable {front : List Component} (h : front <+: p.components)

include h

theorem foldl_take_eq :
    front.foldl Buffer.take .empty =
      ⟨ofComponents (cleanSteps front), (front.foldl Cleaned.take ⟨[], 0⟩).depth⟩ := by
  obtain ⟨dest, hstands, -, hbuffer⟩ := tracks_of_prefix h
  rw [hbuffer, cleanSteps, hstands.reverse_kept, hstands.depth]
  rfl

theorem sound_foldl_take : (front.foldl Buffer.take .empty).Sound := by
  obtain ⟨dest, -, hnamed, hbuffer⟩ := tracks_of_prefix h
  rw [hbuffer]
  exact Destination.sound_buffer hnamed

end Loop

/-- Cleaning is a congruence with canonical results. What a path is joined to may be cleaned before
or after, and a cleaned path is absolute when the path is and has the form of a clean path. The loop
on text ends with the cleaned path; between any two of its steps it has written the steps that are
kept and is sound. -/
theorem clean_canonical (p q : Path) :
    ((p.join q).clean = (p.clean.join q).clean ∧ p.clean.clean = p.clean) ∧
      (p.clean.isAbsolute = p.isAbsolute ∧ p.clean.IsClean) ∧
        p.clean = (p.components.foldl Buffer.take .empty).path ∧
          ∀ front, front <+: p.components →
            (front.foldl Buffer.take .empty).Sound ∧
              front.foldl Buffer.take .empty =
                ⟨ofComponents (cleanSteps front), (front.foldl Cleaned.take ⟨[], 0⟩).depth⟩ := by
  refine ⟨⟨clean_join_clean p q, clean_clean p⟩, ⟨isAbsolute_clean p, isClean_clean p⟩, ?_,
    fun front hfront => ⟨sound_foldl_take hfront, foldl_take_eq hfront⟩⟩
  rw [foldl_take_eq (List.prefix_refl _)]
  rfl

example : clean (join ⟨"a/../.."⟩ ⟨"./b//c/"⟩) = ⟨"../b/c"⟩ := by
  decide

end Path

end Registrar
