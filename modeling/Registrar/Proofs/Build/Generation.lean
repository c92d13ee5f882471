import Registrar.Proofs.Build.Grouping
import Registrar.Proofs.Result

/-!
# The files of a stream are those of its groups

The invariant is `Build.Holds`: after every prefix of a stream, each path finds the draft that the
events of the prefix give it, and the drafts stand in the order of their paths. One event keeps it
(`Build.Holds.after`), so it holds of every stream that is taken to its end, and rendering the
drafts then gives the reference of `Registrar.Proofs.Build.Grouping`. Main statements:
`generate_grouped`, and `find?_generate_congr`: a file depends on nothing but its own events and the
version of the module.
-/

namespace Registrar

/-! ## Groups of a longer stream -/

section Snoc

variable {events : List Event} {event : Event} {p : Path}

theorem eventsAt_snoc_of_feeds (h : event.feeds p = true) :
    eventsAt (events ++ [event]) p = eventsAt events p ++ [event] := by
  simp [eventsAt, h]

theorem eventsAt_snoc_of_not_feeds (h : event.feeds p = false) :
    eventsAt (events ++ [event]) p = eventsAt events p := by
  simp [eventsAt, h]

theorem modulesOf_snoc : modulesOf (events ++ [event]) = modulesOf events ++ event.modules := by
  simp [modulesOf]

theorem modules_of_kind_ne (h : event.kind ≠ .module) : event.modules = [] := by
  cases event with
  | module o => exact absurd rfl h
  | _ => rfl

theorem plugins_of_kind_ne (h : event.kind ≠ .plugin) : event.plugins = [] := by
  cases event with
  | plugin o => exact absurd rfl h
  | _ => rfl

theorem feeds_of_kind_eq_module (h : event.kind = .module) (p : Path) : event.feeds p = false := by
  simp [Event.feeds, h]

theorem feeds_iff_of_kind_ne (h : event.kind ≠ .module) :
    event.feeds p = true ↔ event.location.outputPath.order p = .eq := by
  simp [Event.feeds, Location.outputPath_eq_fileIn, h]

/-- Paths at one place have the same events. -/
theorem eventsAt_congr {q : Path} (h : p.order q = .eq) :
    eventsAt events p = eventsAt events q := by
  simp only [eventsAt, Event.feeds, Path.order_congr_right h]

end Snoc

/-- The draft that events give a path, when one of them leads there. -/
def draftOf? (events : List Event) (p : Path) : Option Draft :=
  (eventsAt events p).head?.map fun first =>
    { outputPath := first.location.outputPath
      package := first.location.package
      moduleName := first.location.moduleName
      binding := (modulesOf events).head?
      plugin := (pluginsAt events p).head?
      states := statesAt events p
      actions := actionsAt events p
      configs := configsAt events p }

theorem draftOf?_congr {events : List Event} {p q : Path} (h : p.order q = .eq) :
    draftOf? events p = draftOf? events q := by
  simp only [draftOf?, pluginsAt, statesAt, actionsAt, configsAt, eventsAt_congr h]

namespace Build

/-- The build is what the events make of a new one. -/
structure Holds (b : Build) (events : List Event) : Prop where
  finished : b.finished = false
  binding : b.binding = (modulesOf events).head?
  sorted : b.drafts.Sorted
  mem_keys : ∀ p ∈ b.drafts.keys, ∃ e ∈ events, e.kind ≠ .module ∧ e.location.outputPath = p
  draft? : ∀ p, b.draft? p = draftOf? events p
  count : ∀ e ∈ events, e.count = 1
  modules : (modulesOf events).length ≤ 1
  plugins : ∀ p, (pluginsAt events p).length ≤ 1

theorem holds_start : Holds start [] where
  finished := rfl
  binding := rfl
  sorted := PathMap.sorted_nil
  mem_keys := by simp [start, PathMap.keys]
  draft? := fun _ => rfl
  count := by simp
  modules := by simp [modulesOf]
  plugins := by simp [pluginsAt, eventsAt]

/-- The draft that an event finds or brings into being, after what it declares is recorded. -/
theorem Holds.gain_draftAt {b : Build} {events : List Event} (h : b.Holds events) {event : Event}
    (hkind : event.kind ≠ .module) :
    draftOf? (events ++ [event]) event.location.outputPath =
      some ((b.draftAt event.location).gain event) := by
  have hfeeds : event.feeds event.location.outputPath = true :=
    (feeds_iff_of_kind_ne hkind).mpr (Path.order_self _)
  have hmodules : modulesOf (events ++ [event]) = modulesOf events := by
    rw [modulesOf_snoc, modules_of_kind_ne hkind, List.append_nil]
  rw [draftAt, h.draft?]
  simp only [draftOf?, pluginsAt, statesAt, actionsAt, configsAt, eventsAt_snoc_of_feeds hfeeds,
    hmodules, List.flatMap_append, List.flatMap_singleton, List.head?_append]
  cases hfirst : (eventsAt events event.location.outputPath).head? with
  | none =>
    -- the event is the first of its path, so its location names the file and the package
    have hnone : eventsAt events event.location.outputPath = [] := List.head?_eq_none_iff.mp hfirst
    have hnew : b.newDraft event.location =
        { Draft.ofLocation event.location with binding := (modulesOf events).head? } := by
      rw [newDraft, h.binding]
      cases (modulesOf events).head? <;> rfl
    simp [hnone, hnew, Draft.gain, Draft.ofLocation, Draft.empty]
  | some first =>
    simp [Draft.gain]

theorem Holds.count_snoc {b : Build} {events : List Event} (h : b.Holds events) {event : Event}
    (hcount : event.count = 1) : ∀ e ∈ events ++ [event], e.count = 1 := by
  intro e he
  rcases List.mem_append.mp he with he | he
  · exact h.count e he
  · rw [List.mem_singleton.mp he]
    exact hcount

/-- The module of a stream is the first one, and every draft learns of it. -/
theorem Holds.after_module {b : Build} {events : List Event} (h : b.Holds events)
    {event : Event} (hcount : event.count = 1) (hkind : event.kind = .module)
    (hfault : b.fault? event = none) : (b.after event).Holds (events ++ [event]) := by
  have hnone : modulesOf events = [] := by
    rw [fault?, hkind] at hfault
    have hbinding : b.binding = none := by simpa using hfault
    exact List.head?_eq_none_iff.mp (h.binding ▸ hbinding)
  have hmodules : modulesOf (events ++ [event]) = event.modules := by
    rw [modulesOf_snoc, hnone, List.nil_append]
  have hafter : b.after event =
      { b with
        drafts := b.drafts.mapValues fun d => { d with binding := event.modules.head? }
        binding := event.modules.head? } := if_pos hkind
  have hat : ∀ p, eventsAt (events ++ [event]) p = eventsAt events p :=
    fun p => eventsAt_snoc_of_not_feeds (feeds_of_kind_eq_module hkind p)
  rw [hafter]
  refine
    { finished := h.finished
      binding := by rw [hmodules]
      sorted := h.sorted.mapValues fun d : Draft => { d with binding := event.modules.head? }
      mem_keys := fun p hp => ?_
      draft? := fun p => ?_
      count := h.count_snoc hcount
      modules := ?_
      plugins := fun p => ?_ }
  · rw [PathMap.keys_mapValues] at hp
    obtain ⟨e, he, hpath⟩ := h.mem_keys p hp
    exact ⟨e, List.mem_append_left _ he, hpath⟩
  · have hp := h.draft? p
    rw [Build.draft?] at hp ⊢
    rw [PathMap.find?_mapValues, hp]
    simp only [draftOf?, pluginsAt, statesAt, actionsAt, configsAt, hat, hmodules, Option.map_map]
    rfl
  · rw [hmodules]
    cases event with
    | module o => exact Nat.le_of_eq hcount
    | _ => cases hkind
  · rw [pluginsAt, hat]
    exact h.plugins p

/-- A path is given one more plugin only if it has none. -/
theorem Holds.plugins_snoc {b : Build} {events : List Event} (h : b.Holds events)
    {event : Event} (hcount : event.count = 1) (hfault : b.fault? event = none) (p : Path) :
    (pluginsAt (events ++ [event]) p).length ≤ 1 := by
  by_cases hfeeds : event.feeds p = true
  · rw [pluginsAt, eventsAt_snoc_of_feeds hfeeds, List.flatMap_append, List.flatMap_singleton,
      List.length_append]
    by_cases hplugin : event.kind = .plugin
    · -- the draft of the path has no plugin yet, so no event before declared one
      have hpath : event.location.outputPath.order p = .eq :=
        (feeds_iff_of_kind_ne (by rw [hplugin]; decide)).mp hfeeds
      have hnone : pluginsAt events p = [] := by
        by_contra hsome
        obtain ⟨first, rest, hfirst⟩ := List.exists_cons_of_ne_nil hsome
        obtain ⟨e, es, hevents⟩ : ∃ e es, eventsAt events p = e :: es := by
          cases hev : eventsAt events p with
          | nil => rw [pluginsAt, hev] at hsome; exact absurd rfl hsome
          | cons e es => exact ⟨e, es, rfl⟩
        have hdraft := h.draft? event.location.outputPath
        rw [draftOf?_congr hpath, draftOf?, hevents, hfirst] at hdraft
        rw [fault?, hplugin] at hfault
        simp [hdraft] at hfault
      have hone : event.plugins.length = 1 := by
        cases event with
        | plugin o => exact hcount
        | _ => cases hplugin
      rw [pluginsAt] at hnone
      rw [hnone, hone]
      exact Nat.le_refl 1
    · rw [plugins_of_kind_ne hplugin]
      exact h.plugins p
  · rw [pluginsAt, eventsAt_snoc_of_not_feeds (by simpa using hfeeds)]
    exact h.plugins p

/-- What any other event declares is recorded in the draft of its path, and nowhere else. -/
theorem Holds.after_of_kind_ne {b : Build} {events : List Event} (h : b.Holds events)
    {event : Event} (hcount : event.count = 1) (hkind : event.kind ≠ .module)
    (hfault : b.fault? event = none) : (b.after event).Holds (events ++ [event]) := by
  have hmodules : modulesOf (events ++ [event]) = modulesOf events := by
    rw [modulesOf_snoc, modules_of_kind_ne hkind, List.append_nil]
  rw [Build.after_of_kind_ne hkind]
  refine
    { finished := h.finished
      binding := by rw [hmodules]; exact h.binding
      sorted := h.sorted.insert _ _
      mem_keys := fun p hp => ?_
      draft? := fun p => ?_
      count := h.count_snoc hcount
      modules := by rw [hmodules]; exact h.modules
      plugins := h.plugins_snoc hcount hfault }
  · rcases PathMap.mem_keys_insert hp with rfl | hp
    · exact ⟨event, by simp, hkind, rfl⟩
    · obtain ⟨e, he, hpath⟩ := h.mem_keys p hp
      exact ⟨e, List.mem_append_left _ he, hpath⟩
  · -- the place of the event finds its draft, and every other place what it found before
    have hp := h.draft? p
    rw [Build.draft?] at hp ⊢
    rw [store, PathMap.find?_insert]
    split
    · next hpath => rw [← draftOf?_congr hpath, h.gain_draftAt hkind]
    · next hpath =>
      have hfeeds : event.feeds p = false := by
        simpa using mt (feeds_iff_of_kind_ne hkind).mp hpath
      rw [hp]
      simp only [draftOf?, pluginsAt, statesAt, actionsAt, configsAt,
        eventsAt_snoc_of_not_feeds hfeeds, hmodules]

/-- One more event is one more event of the groups. -/
theorem Holds.accept {b later : Build} {events : List Event} (h : b.Holds events) {event : Event}
    (haccept : b.accept event = .ok later) : later.Holds (events ++ [event]) := by
  obtain ⟨hcount, hfault, rfl⟩ := (accept_eq_ok_iff h.finished).mp haccept
  by_cases hkind : event.kind = .module
  · exact h.after_module hcount hkind hfault
  · exact h.after_of_kind_ne hcount hkind hfault

/-- A stream that is taken to its end leaves its groups. -/
theorem Holds.foldlM {b last : Build} {before events : List Event} (h : b.Holds before)
    (hrun : events.foldlM Build.accept b = .ok last) : last.Holds (before ++ events) := by
  induction events generalizing b before with
  | nil =>
    cases hrun
    rwa [List.append_nil]
  | cons event events ih =>
    rw [List.foldlM_cons] at hrun
    obtain ⟨later, haccept, hrest⟩ := bind_eq_ok_iff.mp hrun
    have hlast := ih (h.accept haccept) hrest
    rwa [List.append_assoc, List.singleton_append] at hlast

end Build

/-! ## Rendering -/

/-- The draft that events give a path is written from their content. -/
theorem content?_of_draftOf? {events : List Event} {p : Path} {d : Draft}
    (h : draftOf? events p = some d) : d.content? = contentAt? events p := by
  obtain ⟨first, hfirst, rfl⟩ := Option.map_eq_some_iff.mp h
  rw [contentAt?, hfirst, Draft.content?]
  cases (pluginsAt events p).head? with
  | none => rfl
  | some plugin =>
    rw [Location.moduleName_eq]
    rfl

/-- The draft that events give a path is rendered as the file of the reference. -/
theorem toOption_render_of_draftOf? {events : List Event} {p : Path} {d : Draft}
    (h : draftOf? events p = some d) : d.render.toOption = fileText? events p := by
  rw [Draft.toOption_render, content?_of_draftOf? h, fileText?]

/-- Rendered files stand in the order of their drafts. -/
theorem Build.renderAll_eq_ok {drafts : PathMap Draft} {files : GeneratedFiles}
    (h : Build.renderAll drafts = .ok files) {text? : Path → Option String}
    (htext : ∀ entry ∈ drafts, entry.2.render.toOption = text? entry.1) :
    (drafts.keys.mapM fun p => return (p, Text.encode (← text? p))) = some files := by
  induction drafts generalizing files with
  | nil =>
    cases h
    rfl
  | cons entry rest ih =>
    obtain ⟨p, d⟩ := entry
    rw [Build.renderAll] at h
    obtain ⟨text, hrender, htail⟩ := bind_eq_ok_iff.mp h
    obtain ⟨more, hmore, hfiles⟩ := bind_eq_ok_iff.mp htail
    obtain rfl : (p, Text.encode text) :: more = files := Except.ok.inj hfiles
    have hd := htext (p, d) (List.mem_cons_self ..)
    have hrest := ih hmore fun entry he => htext entry (List.mem_cons_of_mem _ he)
    rw [hrender] at hd
    rw [PathMap.keys, List.map_cons, List.mapM_cons, ← hd]
    rw [PathMap.keys] at hrest
    simp only [hrest]
    rfl

/-! ## Paths -/

theorem mem_outputPaths {events : List Event} {p : Path} :
    p ∈ outputPaths events ↔ ∃ e ∈ events, e.kind ≠ .module ∧ e.location.outputPath = p := by
  rw [outputPaths, (List.mergeSort_perm _ _).mem_iff, List.mem_dedup]
  simp [Location.outputPath_eq_fileIn, and_assoc]

theorem pairwise_outputPaths (events : List Event) :
    (outputPaths events).Pairwise fun p q => p.order q = .lt := by
  have hsorted : (outputPaths events).Pairwise fun p q => p.atMost q :=
    List.pairwise_mergeSort Path.atMost_trans Path.atMost_total _
  have hnodup : (outputPaths events).Nodup :=
    (List.mergeSort_perm _ _).nodup_iff.mpr (List.nodup_dedup _)
  refine (hsorted.and hnodup).imp_of_mem fun {p q} hp hq hpq => ?_
  obtain ⟨d, -, -, rfl⟩ := mem_outputPaths.mp hp
  obtain ⟨e, -, -, rfl⟩ := mem_outputPaths.mp hq
  -- output paths at one place are one text, so different ones stand apart
  exact Path.order_lt_of_atMost hpq.1 fun heq => hpq.2 (Location.outputPath_eq_of_order_eq heq)

namespace Build

theorem Holds.mem_keys_iff {b : Build} {events : List Event} (h : b.Holds events) {p : Path} :
    p ∈ b.drafts.keys ↔ ∃ e ∈ events, e.kind ≠ .module ∧ e.location.outputPath = p := by
  refine ⟨h.mem_keys p, ?_⟩
  rintro ⟨e, he, hkind, rfl⟩
  have hmem : e ∈ eventsAt events e.location.outputPath :=
    List.mem_filter.mpr ⟨he, (feeds_iff_of_kind_ne hkind).mpr (Path.order_self _)⟩
  obtain ⟨first, hfirst⟩ : ∃ first, (eventsAt events e.location.outputPath).head? = some first := by
    cases hev : eventsAt events e.location.outputPath with
    | nil => rw [hev] at hmem; exact absurd hmem List.not_mem_nil
    | cons first rest => exact ⟨first, rfl⟩
  have hdraft := h.draft? e.location.outputPath
  rw [draftOf?, hfirst] at hdraft
  obtain ⟨key, hentry, hkey⟩ := PathMap.exists_mem_of_find?_eq_some hdraft
  have hkeys : key ∈ b.drafts.keys := List.mem_map_of_mem hentry
  obtain ⟨e', -, -, rfl⟩ := h.mem_keys key hkeys
  rwa [← Location.outputPath_eq_of_order_eq hkey]

theorem Holds.keys_eq {b : Build} {events : List Event} (h : b.Holds events) :
    b.drafts.keys = outputPaths events := by
  have hne : ∀ {p q : Path}, p.order q = .lt → p ≠ q := by
    rintro p _ hlt rfl
    exact Path.order_lt_irrefl p hlt
  -- two strictly ascending lists of the same paths are one list
  have hperm : b.drafts.keys.Perm (outputPaths events) :=
    (List.perm_ext_iff_of_nodup (h.sorted.imp hne) ((pairwise_outputPaths events).imp hne)).mpr
      fun p => h.mem_keys_iff.trans mem_outputPaths.symm
  refine hperm.eq_of_pairwise (fun p q _ _ hpq hqp => ?_) h.sorted (pairwise_outputPaths events)
  exact absurd (Path.order_lt_trans hpq hqp) (Path.order_lt_irrefl p)

end Build

/-! ## The whole stream -/

theorem exists_holds_of_generate {events : List Event} {files : GeneratedFiles}
    (h : generate events = .ok files) :
    ∃ b : Build, b.Holds events ∧ Build.renderAll b.drafts = .ok files := by
  rw [generate, Build.complete_run_fst] at h
  obtain ⟨b, hrun, hemit⟩ := bind_eq_ok_iff.mp h
  have hholds : b.Holds events := Build.holds_start.foldlM hrun
  refine ⟨b, hholds, ?_⟩
  obtain ⟨⟨out, later⟩, hproduce, hout⟩ := bind_eq_ok_iff.mp hemit
  rw [Build.produce, Build.release_run, hholds.finished] at hproduce
  cases hrender : Build.renderAll b.drafts with
  | error why =>
    rw [hrender] at hproduce
    cases hproduce
  | ok rendered =>
    rw [hrender] at hproduce
    cases hproduce
    exact hout

/-- What a list of paths with their texts holds. -/
theorem mapM_text_eq_some {text? : Path → Option String} {paths : List Path}
    {files : GeneratedFiles}
    (h : (paths.mapM fun p => return (p, Text.encode (← text? p))) = some files) :
    files.keys = paths ∧ ∀ entry ∈ files, (text? entry.1).map Text.encode = some entry.2 := by
  induction paths generalizing files with
  | nil =>
    cases h
    exact ⟨rfl, by simp⟩
  | cons p rest ih =>
    rw [List.mapM_cons] at h
    cases htext : text? p with
    | none =>
      rw [htext] at h
      cases h
    | some text =>
      cases hrest : rest.mapM fun p => return (p, Text.encode (← text? p)) with
      | none =>
        rw [htext, hrest] at h
        cases h
      | some more =>
        rw [htext, hrest] at h
        cases h
        obtain ⟨hkeys, hentries⟩ := ih hrest
        refine ⟨congrArg (p :: ·) hkeys, fun entry hentry => ?_⟩
        rcases List.mem_cons.mp hentry with rfl | hentry
        · exact congrArg (Option.map Text.encode) htext
        · exact hentries entry hentry

theorem filesOf?_of_holds {b : Build} {events : List Event} (h : b.Holds events)
    {files : GeneratedFiles} (hrender : Build.renderAll b.drafts = .ok files) :
    filesOf? events = some files := by
  rw [filesOf?, ← h.keys_eq]
  refine Build.renderAll_eq_ok hrender fun entry hentry => ?_
  have hdraft : b.draft? entry.1 = some entry.2 :=
    h.sorted.find?_of_mem hentry (Path.order_self _)
  exact toOption_render_of_draftOf? (h.draft? entry.1 ▸ hdraft)

/-- The text of a file is written from a first event and a plugin. -/
theorem exists_of_fileText? {events : List Event} {p : Path} {text : String}
    (h : fileText? events p = some text) :
    (∃ first, (eventsAt events p).head? = some first) ∧
      ∃ plugin, (pluginsAt events p).head? = some plugin := by
  obtain ⟨content, hcontent, -⟩ := Option.bind_eq_some_iff.mp h
  obtain ⟨first, hfirst, hcontent⟩ := Option.bind_eq_some_iff.mp hcontent
  obtain ⟨plugin, hplugin, -⟩ := Option.bind_eq_some_iff.mp hcontent
  exact ⟨⟨first, hfirst⟩, plugin, hplugin⟩

theorem fileText?_congr {events : List Event} {p q : Path} (h : p.order q = .eq) :
    fileText? events p = fileText? events q := by
  simp only [fileText?, contentAt?, pluginsAt, statesAt, actionsAt, configsAt, eventsAt_congr h]

theorem filesOf?_generate {events : List Event} {files : GeneratedFiles}
    (h : generate events = .ok files) : filesOf? events = some files := by
  obtain ⟨b, hholds, hrender⟩ := exists_holds_of_generate h
  exact filesOf?_of_holds hholds hrender

theorem mem_keys_generate {events : List Event} {files : GeneratedFiles}
    (h : generate events = .ok files) {p : Path} :
    p ∈ files.keys ↔ ∃ e ∈ events, e.kind ≠ .module ∧ e.location.outputPath = p := by
  rw [(mapM_text_eq_some (filesOf?_generate h)).1]
  exact mem_outputPaths

/-- A path finds the text that its events make up. -/
theorem find?_generate {events : List Event} {files : GeneratedFiles}
    (h : generate events = .ok files) (p : Path) :
    files.find? p = (fileText? events p).map Text.encode := by
  cases hfind : files.find? p with
  | some content =>
    obtain ⟨key, hentry, hkey⟩ := PathMap.exists_mem_of_find?_eq_some hfind
    rw [← fileText?_congr hkey]
    exact ((mapM_text_eq_some (filesOf?_generate h)).2 _ hentry).symm
  | none =>
    cases htext : fileText? events p with
    | none => rfl
    | some text =>
      obtain ⟨⟨first, hfirst⟩, -⟩ := exists_of_fileText? htext
      obtain ⟨hmem, hfeeds⟩ := List.mem_filter.mp (List.mem_of_head? hfirst)
      have hkind : first.kind ≠ .module := by
        intro hkind
        rw [feeds_of_kind_eq_module hkind] at hfeeds
        cases hfeeds
      have hkey : first.location.outputPath ∈ files.keys :=
        (mem_keys_generate h).mpr ⟨first, hmem, hkind, rfl⟩
      exact absurd ((feeds_iff_of_kind_ne hkind).mp hfeeds)
        (PathMap.find?_eq_none_iff.mp hfind _ hkey)

/-- The generated files are those of the groups of the stream. -/
theorem generate_grouped {events : List Event} {files : GeneratedFiles}
    (h : generate events = .ok files) : Grouped events files := by
  obtain ⟨b, hholds, -⟩ := exists_holds_of_generate h
  obtain ⟨hkeys, htexts⟩ := mapM_text_eq_some (filesOf?_generate h)
  refine
    { filesOf?_eq := filesOf?_generate h
      sorted := by rw [PathMap.Sorted, hkeys]; exact pairwise_outputPaths events
      mem_keys_iff := fun p => mem_keys_generate h
      existsUnique_feeds := fun e he hkind => ?_
      count_eq_one := hholds.count
      pluginsAt_eq := fun p hp => ?_
      length_modulesOf_le := hholds.modules }
  · refine ⟨e.location.outputPath, ⟨(mem_keys_generate h).mpr ⟨e, he, hkind, rfl⟩, ?_⟩, ?_⟩
    · exact (feeds_iff_of_kind_ne hkind).mpr (Path.order_self _)
    · -- an event leads to one place, and at one place stands one path
      rintro q ⟨hq, hfeeds⟩
      obtain ⟨other, -, -, rfl⟩ := (mem_keys_generate h).mp hq
      exact (Location.outputPath_eq_of_order_eq ((feeds_iff_of_kind_ne hkind).mp hfeeds)).symm
  · obtain ⟨entry, hentry, rfl⟩ := List.mem_map.mp hp
    obtain ⟨text, htext, -⟩ := Option.map_eq_some_iff.mp (htexts entry hentry)
    obtain ⟨-, plugin, hplugin⟩ := exists_of_fileText? htext
    have hlength := hholds.plugins entry.1
    refine ⟨plugin, ?_⟩
    cases hall : pluginsAt events entry.1 with
    | nil => rw [hall] at hplugin; cases hplugin
    | cons first rest =>
      rw [hall] at hplugin hlength
      cases hplugin
      obtain rfl : rest = [] := by simpa using hlength
      rfl

/-- A location of the sample streams. -/
def sampleLocation (dir : String) : Location :=
  ⟨⟨dir⟩, ⟨"/work/demo/"⟩, "logic"⟩

/-- Two plugins: a state comes before its plugin and spells the directory in another way, and the
module that one of them takes its version from stands last. -/
def sampleStream : List Event :=
  [.state ⟨sampleLocation "a/./x", [⟨"Value", "value", "", .enum ["off", "on"]⟩]⟩,
    .plugin ⟨sampleLocation "b", [⟨"Lamp", "lamp", "", .actuator, "1"⟩]⟩,
    .plugin ⟨sampleLocation "a/c/../x", [⟨"Switch", "switch", "", .logic, ""⟩]⟩,
    .module ⟨sampleLocation ".", [⟨some "2.0"⟩]⟩]

theorem generate_sampleStream_isOk : (generate sampleStream).isOk = true := by
  decide +kernel

/-- Both spellings of one directory lead to one file. -/
theorem sampleStream_grouped : ∃ files, generate sampleStream = .ok files ∧
    Grouped sampleStream files ∧
    files.keys = [⟨"a/x/zzz_plugins_annotations_generated.go"⟩,
      ⟨"b/zzz_plugins_annotations_generated.go"⟩] := by
  have hok := generate_sampleStream_isOk
  have hkeys : (generate sampleStream).toOption.map PathMap.keys =
      some [⟨"a/x/zzz_plugins_annotations_generated.go"⟩,
        ⟨"b/zzz_plugins_annotations_generated.go"⟩] := by decide +kernel
  cases h : generate sampleStream with
  | error why =>
    rw [h] at hok
    cases hok
  | ok files =>
    rw [h] at hkeys
    exact ⟨files, rfl, generate_grouped h, Option.some.inj hkeys⟩

/-! ## Independence -/

/-- A file depends on nothing but what its own events declare, the package and the module name of
the first of them, and the version of the module: two streams that agree on these give it the same
text, whatever else they hold and in whatever order. -/
theorem find?_generate_congr {events others : List Event} {files otherFiles : GeneratedFiles}
    (hfiles : generate events = .ok files) (hothers : generate others = .ok otherFiles) {p : Path}
    (hversion : moduleVersion? events = moduleVersion? others)
    (hplugins : pluginsAt events p = pluginsAt others p)
    (hstates : statesAt events p = statesAt others p)
    (hactions : actionsAt events p = actionsAt others p)
    (hconfigs : configsAt events p = configsAt others p)
    (hpackage : (eventsAt events p).head?.map (·.location.package) =
      (eventsAt others p).head?.map (·.location.package))
    (hmodule : (eventsAt events p).head?.map (·.location.moduleName) =
      (eventsAt others p).head?.map (·.location.moduleName)) :
    files.find? p = otherFiles.find? p := by
  suffices hcontent : contentAt? events p = contentAt? others p by
    rw [find?_generate hfiles, find?_generate hothers, fileText?, fileText?, hcontent]
  rw [contentAt?, contentAt?, ← hplugins, ← hstates, ← hactions, ← hconfigs, ← hversion]
  cases hfirst : (eventsAt events p).head? with
  | none =>
    rw [hfirst, Option.map_none, eq_comm, Option.map_eq_none_iff] at hpackage
    rw [hpackage]
  | some first =>
    rw [hfirst, Option.map_some, eq_comm, Option.map_eq_some_iff] at hpackage
    obtain ⟨other, hother, hpackage⟩ := hpackage
    have hname : moduleNameOf first.location.root = moduleNameOf other.location.root := by
      rw [← Location.moduleName_eq, ← Location.moduleName_eq]
      simpa [hfirst, hother] using hmodule
    simp only [hother, Option.bind_eq_bind, Option.bind_some, hname, hpackage]

/-- The sample without its second plugin and with a third one, in another order, and with other
spellings of the directories. -/
def shuffledStream : List Event :=
  [.module ⟨sampleLocation "elsewhere", [⟨some "2.0"⟩]⟩,
    .plugin ⟨sampleLocation "a/x/", [⟨"Switch", "switch", "", .logic, ""⟩]⟩,
    .plugin ⟨sampleLocation "c", [⟨"Fan", "fan", "", .actuator, ""⟩]⟩,
    .state ⟨sampleLocation "./a//x", [⟨"Value", "value", "", .enum ["off", "on"]⟩]⟩]

theorem find?_sampleStream_eq_shuffledStream : ∃ files otherFiles,
    generate sampleStream = .ok files ∧ generate shuffledStream = .ok otherFiles ∧
      files.find? (sampleLocation "a/x").outputPath =
        otherFiles.find? (sampleLocation "a/x").outputPath := by
  have hok := generate_sampleStream_isOk
  have hother : (generate shuffledStream).isOk = true := by decide +kernel
  cases hfiles : generate sampleStream with
  | error why =>
    rw [hfiles] at hok
    cases hok
  | ok files =>
    cases hothers : generate shuffledStream with
    | error why =>
      rw [hothers] at hother
      cases hother
    | ok otherFiles =>
      have hat : eventsAt sampleStream (sampleLocation "a/x").outputPath =
          [.state ⟨sampleLocation "a/./x", [⟨"Value", "value", "", .enum ["off", "on"]⟩]⟩,
            .plugin ⟨sampleLocation "a/c/../x", [⟨"Switch", "switch", "", .logic, ""⟩]⟩] := by
        decide +kernel
      have hatOther : eventsAt shuffledStream (sampleLocation "a/x").outputPath =
          [.plugin ⟨sampleLocation "a/x/", [⟨"Switch", "switch", "", .logic, ""⟩]⟩,
            .state ⟨sampleLocation "./a//x", [⟨"Value", "value", "", .enum ["off", "on"]⟩]⟩] := by
        decide +kernel
      refine ⟨files, otherFiles, rfl, rfl,
        find?_generate_congr hfiles hothers rfl ?_ ?_ ?_ ?_ ?_ ?_⟩
      · rw [pluginsAt, pluginsAt, hat, hatOther]; rfl
      · rw [statesAt, statesAt, hat, hatOther]; rfl
      · rw [actionsAt, actionsAt, hat, hatOther]; rfl
      · rw [configsAt, configsAt, hat, hatOther]; rfl
      · rw [hat, hatOther]; rfl
      · rw [hat, hatOther]; rfl

end Registrar
