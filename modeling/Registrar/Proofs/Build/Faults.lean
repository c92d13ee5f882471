import Registrar.Proofs.Build.Generation
import Registrar.Proofs.Build.Rendering

/-!
# When a stream is refused

A stream fails for the earliest event that offends, and only when none does for a file. Which file
that is does not depend on the stream: of the paths that have no text it is the least. Main
statement: `generate_fails_exactly`.

What an event offends against is read off the events before it (`Event.offence?`), and what a file
lacks off the events that feed it (`fileFault?`). After any prefix the build knows both, since it
holds the groups of that prefix (`Build.Holds.accept_eq_error_iff`, `Build.Holds.fault?_of_mem`).
-/

namespace Registrar

/-! ## The reference -/

/-- Whether a plugin is declared for the file at a path. -/
def HasPlugin (events : List Event) (p : Path) : Prop :=
  ∃ e ∈ events, e.kind = .plugin ∧ e.location.outputPath = p

instance (events : List Event) (p : Path) : Decidable (HasPlugin events p) :=
  inferInstanceAs (Decidable (∃ e ∈ events, e.kind = .plugin ∧ e.location.outputPath = p))

/-- What an event offends against, coming after others: it has to carry one annotation, a module is
declared once, and a plugin once for each path. -/
def Event.offence? (before : List Event) (event : Event) : Option BuildError :=
  if event.count ≠ 1 then some (.cardinality event.kind event.count)
  else
    match event.kind with
    | .module => if ∃ e ∈ before, e.kind = .module then some .duplicateModule else none
    | .plugin =>
      if HasPlugin before event.location.outputPath then
        some (.duplicatePlugin event.location.outputPath)
      else none
    | .state | .action | .config => none

/-- No event of the stream offends. -/
def Unoffending (events : List Event) : Prop :=
  ∀ before event after, events = before ++ event :: after → event.offence? before = none

/-- Why the file at a path has no text, if it has none. -/
def fileFault? (events : List Event) (p : Path) : Option BuildError :=
  if HasPlugin events p then memberFault? (statesAt events p) (actionsAt events p)
  else some (.missingPlugin p)

/-! ## What the groups say of single events -/

section Groups

variable {events : List Event}

theorem modulesOf_ne_nil_iff (hcount : ∀ e ∈ events, e.count = 1) :
    modulesOf events ≠ [] ↔ ∃ e ∈ events, e.kind = .module := by
  refine ⟨fun hne => ?_, ?_⟩
  · obtain ⟨m, hm⟩ := List.exists_mem_of_ne_nil _ hne
    obtain ⟨e, he, hdeclared⟩ := List.mem_flatMap.mp hm
    refine ⟨e, he, ?_⟩
    by_contra hkind
    rw [modules_of_kind_ne hkind] at hdeclared
    cases hdeclared
  · rintro ⟨e, he, hkind⟩
    have hone : e.modules.length = 1 := by
      have hone := hcount e he
      cases e with
      | module o => exact hone
      | _ => cases hkind
    obtain ⟨m, hm⟩ := List.length_eq_one_iff.mp hone
    exact List.ne_nil_of_mem (List.mem_flatMap.mpr ⟨e, he, hm ▸ List.mem_singleton_self m⟩)

theorem pluginsAt_ne_nil_iff (hcount : ∀ e ∈ events, e.count = 1) {l : Location} :
    pluginsAt events l.outputPath ≠ [] ↔ HasPlugin events l.outputPath := by
  refine ⟨fun hne => ?_, ?_⟩
  · obtain ⟨p, hp⟩ := List.exists_mem_of_ne_nil _ hne
    obtain ⟨e, he, hdeclared⟩ := List.mem_flatMap.mp hp
    obtain ⟨hmem, hfeeds⟩ := List.mem_filter.mp he
    have hkind : e.kind = .plugin := by
      by_contra hkind
      rw [plugins_of_kind_ne hkind] at hdeclared
      cases hdeclared
    have horder := (feeds_iff_of_kind_ne (by rw [hkind]; decide)).mp hfeeds
    exact ⟨e, hmem, hkind, Location.outputPath_eq_of_order_eq horder⟩
  · rintro ⟨e, he, hkind, hpath⟩
    have hone : e.plugins.length = 1 := by
      have hone := hcount e he
      cases e with
      | plugin o => exact hone
      | _ => cases hkind
    obtain ⟨p, hp⟩ := List.length_eq_one_iff.mp hone
    have hfeeds : e.feeds l.outputPath = true :=
      (feeds_iff_of_kind_ne (by rw [hkind]; decide)).mpr (hpath ▸ Path.order_self _)
    refine List.ne_nil_of_mem (List.mem_flatMap.mpr ⟨e, ?_, hp ▸ List.mem_singleton_self p⟩)
    exact List.mem_filter.mpr ⟨he, hfeeds⟩

/-- The first event of an output path leads to it. -/
theorem outputPath_of_head?_eventsAt {l : Location} {first : Event}
    (h : (eventsAt events l.outputPath).head? = some first) :
    first.location.outputPath = l.outputPath := by
  obtain ⟨-, hfeeds⟩ := List.mem_filter.mp (List.mem_of_head? h)
  have hkind : first.kind ≠ .module := by
    intro hkind
    rw [feeds_of_kind_eq_module hkind] at hfeeds
    cases hfeeds
  exact Location.outputPath_eq_of_order_eq ((feeds_iff_of_kind_ne hkind).mp hfeeds)

end Groups

/-! ## What the build knows -/

namespace Build

variable {b : Build} {events : List Event}

/-- An unfinished build finds the fault with an event that it has after the events so far. -/
theorem Holds.fault?_eq (h : b.Holds events) {event : Event} (hcount : event.count = 1) :
    b.fault? event = event.offence? events := by
  rw [Event.offence?, if_neg (by simpa using hcount), fault?]
  cases hkind : event.kind with
  | module =>
    simp only [h.binding, ← modulesOf_ne_nil_iff h.count]
    cases modulesOf events <;> simp
  | plugin =>
    simp only [h.draft?, ← pluginsAt_ne_nil_iff h.count, draftOf?]
    cases hfirst : (eventsAt events event.location.outputPath).head? with
    | none =>
      have hnone : pluginsAt events event.location.outputPath = [] := by
        rw [pluginsAt, List.head?_eq_none_iff.mp hfirst, List.flatMap_nil]
      simp [hnone]
    | some first =>
      have hpath := outputPath_of_head?_eventsAt hfirst
      cases pluginsAt events event.location.outputPath <;> simp [hpath]
  | state | action | config => rfl

/-- A build refuses an event for what it offends against. -/
theorem Holds.accept_eq_error_iff (h : b.Holds events) {event : Event} {why : BuildError} :
    b.accept event = .error why ↔ event.offence? events = some why := by
  rw [Build.accept, process_run]
  by_cases hcount : event.count = 1
  · rw [h.fault?_eq hcount, if_neg (by simpa using hcount), if_neg (by simp [h.finished])]
    cases event.offence? events <;> simp
  · rw [if_pos hcount, Event.offence?, if_pos hcount]
    simp

/-- A draft lacks what the file at its path lacks. -/
theorem Holds.fault?_of_mem (h : b.Holds events) {p : Path} {d : Draft} (hmem : (p, d) ∈ b.drafts) :
    d.fault? = fileFault? events p := by
  obtain ⟨e, -, -, rfl⟩ := h.mem_keys p (List.mem_map_of_mem hmem)
  have hdraft : b.draft? e.location.outputPath = some d :=
    h.sorted.find?_of_mem hmem (Path.order_self _)
  rw [h.draft?, draftOf?, Option.map_eq_some_iff] at hdraft
  obtain ⟨first, hfirst, rfl⟩ := hdraft
  rw [Draft.fault?, fileFault?, ← outputPath_of_head?_eventsAt hfirst]
  simp only [outputPath_of_head?_eventsAt hfirst, ← pluginsAt_ne_nil_iff h.count]
  cases pluginsAt events e.location.outputPath <;> simp

theorem Holds.exists_fault?_eq (h : b.Holds events) {p : Path} (hp : p ∈ outputPaths events) :
    ∃ d, (p, d) ∈ b.drafts ∧ d.fault? = fileFault? events p := by
  rw [← h.keys_eq] at hp
  obtain ⟨⟨_, d⟩, hmem, rfl⟩ := List.mem_map.mp hp
  exact ⟨d, hmem, h.fault?_of_mem hmem⟩

theorem Holds.mem_outputPaths (h : b.Holds events) {entry : Path × Draft}
    (hmem : entry ∈ b.drafts) : entry.1 ∈ outputPaths events := by
  rw [← h.keys_eq]
  exact List.mem_map_of_mem hmem

/-- The drafts fail to be rendered for the least path whose file has no text. -/
theorem Holds.renderAll_eq_error_iff (h : b.Holds events) {why : BuildError} :
    renderAll b.drafts = .error why ↔
      ∃ p ∈ outputPaths events, fileFault? events p = some why ∧
        ∀ q ∈ outputPaths events, q.order p = .lt → fileFault? events q = none := by
  rw [Build.renderAll_eq_error_iff h.sorted]
  refine ⟨?_, ?_⟩
  · rintro ⟨entry, hmem, hfault, hleast⟩
    refine ⟨entry.1, h.mem_outputPaths hmem, h.fault?_of_mem hmem ▸ hfault, fun q hq hlt => ?_⟩
    obtain ⟨d, hd, hsame⟩ := h.exists_fault?_eq hq
    rw [← hsame]
    exact hleast (q, d) hd hlt
  · rintro ⟨p, hp, hfault, hleast⟩
    obtain ⟨d, hd, hsame⟩ := h.exists_fault?_eq hp
    refine ⟨(p, d), hd, hsame.trans hfault, fun other hother hlt => ?_⟩
    rw [h.fault?_of_mem hother]
    exact hleast other.1 (h.mem_outputPaths hother) hlt

/-- The drafts are rendered when every file has a text. -/
theorem Holds.exists_renderAll_iff (h : b.Holds events) :
    (∃ files, renderAll b.drafts = .ok files) ↔
      ∀ p ∈ outputPaths events, fileFault? events p = none := by
  rw [Build.exists_renderAll_iff]
  refine ⟨fun hall p hp => ?_, fun hall entry hmem => ?_⟩
  · obtain ⟨d, hd, hsame⟩ := h.exists_fault?_eq hp
    rw [← hsame]
    exact hall (p, d) hd
  · rw [h.fault?_of_mem hmem]
    exact hall entry.1 (h.mem_outputPaths hmem)

/-! ## Runs -/

/-- A stream is taken to its end when no event of it offends. -/
theorem exists_foldlM_accept_iff :
    (∃ b, events.foldlM accept start = .ok b) ↔ Unoffending events := by
  refine ⟨?_, fun hsound => ?_⟩
  · rintro ⟨b, hrun⟩ before event after rfl
    rw [List.foldlM_append] at hrun
    obtain ⟨middle, hbefore, hrest⟩ := bind_eq_ok_iff.mp hrun
    rw [List.foldlM_cons] at hrest
    obtain ⟨next, haccept, -⟩ := bind_eq_ok_iff.mp hrest
    have hholds : middle.Holds before := holds_start.foldlM hbefore
    cases hoffence : event.offence? before with
    | none => rfl
    | some why =>
      rw [hholds.accept_eq_error_iff.mpr hoffence] at haccept
      cases haccept
  · cases hrun : events.foldlM accept start with
    | ok b => exact ⟨b, rfl⟩
    | error why =>
      obtain ⟨before, event, after, middle, rfl, hbefore, haccept⟩ := foldlM_eq_error_iff.mp hrun
      have hholds : middle.Holds before := holds_start.foldlM hbefore
      have hoffence := hholds.accept_eq_error_iff.mp haccept
      rw [hsound before event after rfl] at hoffence
      cases hoffence

/-- A stream that is not taken to its end fails for the earliest event that offends. -/
theorem foldlM_accept_eq_error_iff {why : BuildError} :
    events.foldlM accept start = .error why ↔
      ∃ before event after, events = before ++ event :: after ∧ Unoffending before ∧
        event.offence? before = some why := by
  rw [foldlM_eq_error_iff]
  refine ⟨?_, ?_⟩
  · rintro ⟨before, event, after, middle, rfl, hbefore, haccept⟩
    -- the events before the refused one were all taken, so none of them offends
    have hholds : middle.Holds before := holds_start.foldlM hbefore
    exact ⟨before, event, after, rfl, exists_foldlM_accept_iff.mp ⟨middle, hbefore⟩,
      hholds.accept_eq_error_iff.mp haccept⟩
  · rintro ⟨before, event, after, rfl, hsound, hoffence⟩
    obtain ⟨middle, hbefore⟩ := exists_foldlM_accept_iff.mpr hsound
    have hholds : middle.Holds before := holds_start.foldlM hbefore
    exact ⟨before, event, after, middle, rfl, hbefore, hholds.accept_eq_error_iff.mpr hoffence⟩

/-- The files of an unfinished build are its drafts rendered. -/
theorem produce_of_open (hopen : b.finished = false) :
    (b.produce >>= fun out => pure out.1) = renderAll b.drafts := by
  rw [produce, release_run, hopen]
  cases renderAll b.drafts <;> rfl

end Build

/-- The files of a stream are the drafts that it leaves, rendered. -/
theorem generate_eq_bind (events : List Event) :
    generate events =
      events.foldlM Build.accept Build.start >>= fun b => Build.renderAll b.drafts := by
  rw [generate, Build.complete_run_fst]
  cases hrun : events.foldlM Build.accept Build.start with
  | error why => rfl
  | ok b =>
    have hholds : b.Holds events := Build.holds_start.foldlM hrun
    exact Build.produce_of_open hholds.finished

/-- A stream fails for its earliest event that offends. When none does, it fails for the least path
whose file has no plugin, or a state or an action with an enumeration of no values. In every other
case there are files. -/
theorem generate_fails_exactly (events : List Event) :
    (∀ why, generate events = .error why ↔
      (∃ before event after, events = before ++ event :: after ∧ Unoffending before ∧
        event.offence? before = some why) ∨
      Unoffending events ∧ ∃ p ∈ outputPaths events, fileFault? events p = some why ∧
        ∀ q ∈ outputPaths events, q.order p = .lt → fileFault? events q = none) ∧
    ((∃ files, generate events = .ok files) ↔
      Unoffending events ∧ ∀ p ∈ outputPaths events, fileFault? events p = none) := by
  refine ⟨fun why => ?_, ?_⟩
  · rw [generate_eq_bind, bind_eq_error_iff, Build.foldlM_accept_eq_error_iff]
    refine or_congr_right ⟨?_, ?_⟩
    · rintro ⟨b, hrun, hrender⟩
      have hholds : b.Holds events := Build.holds_start.foldlM hrun
      exact ⟨Build.exists_foldlM_accept_iff.mp ⟨b, hrun⟩,
        hholds.renderAll_eq_error_iff.mp hrender⟩
    · rintro ⟨hsound, hfault⟩
      obtain ⟨b, hrun⟩ := Build.exists_foldlM_accept_iff.mpr hsound
      have hholds : b.Holds events := Build.holds_start.foldlM hrun
      exact ⟨b, hrun, hholds.renderAll_eq_error_iff.mpr hfault⟩
  · rw [generate_eq_bind]
    refine ⟨?_, ?_⟩
    · rintro ⟨files, hok⟩
      obtain ⟨b, hrun, hrender⟩ := bind_eq_ok_iff.mp hok
      have hholds : b.Holds events := Build.holds_start.foldlM hrun
      exact ⟨Build.exists_foldlM_accept_iff.mp ⟨b, hrun⟩,
        hholds.exists_renderAll_iff.mp ⟨files, hrender⟩⟩
    · rintro ⟨hsound, hall⟩
      obtain ⟨b, hrun⟩ := Build.exists_foldlM_accept_iff.mpr hsound
      have hholds : b.Holds events := Build.holds_start.foldlM hrun
      obtain ⟨files, hrender⟩ := hholds.exists_renderAll_iff.mpr hall
      exact ⟨files, bind_eq_ok_iff.mpr ⟨b, hrun, hrender⟩⟩

end Registrar
