import Registrar.Proofs.Build.Rendering
import Registrar.Proofs.Build.Session
import Registrar.Proofs.Paths.Clean

/-!
# What every call keeps of a build

The drafts of a build, its binding and whether it is finished belong together, whatever calls were
made and whether they failed: `Build.Coherent` says how. A new build is coherent, an accepted event
keeps it so (`Build.Coherent.accept`), and so does bringing out the files
(`Build.Coherent.release`); no other call changes anything. Main statement:
`Build.coherent_of_calls`.
-/

namespace Registrar

/-- Whether anything but the module is declared in a draft. -/
def Draft.Populated (d : Draft) : Prop :=
  d.plugin ≠ none ∨ d.states ≠ [] ∨ d.actions ≠ [] ∨ d.configs ≠ []

namespace Build

/-- What holds of a build that has accepted some events. -/
structure Coherent (b : Build) (events : List Event) : Prop where
  /-- the drafts stand in strictly ascending order of their paths -/
  sorted : b.drafts.Sorted
  /-- every draft stands at its own path -/
  outputPath_eq : ∀ entry ∈ b.drafts, entry.2.outputPath = entry.1
  /-- every path is that of the generated file in the directory of an event -/
  exists_event : ∀ p ∈ b.drafts.keys, ∃ e ∈ events, e.kind ≠ .module ∧
    p = e.location.dir.clean.join ⟨generatedFileName⟩
  /-- every draft knows of the module what the build knows -/
  binding_eq : ∀ entry ∈ b.drafts, entry.2.binding = b.binding
  /-- no draft is empty -/
  populated : ∀ entry ∈ b.drafts, entry.2.Populated
  /-- a build is finished only when all of its drafts have a text -/
  exists_render : b.finished = true → ∀ entry ∈ b.drafts, ∃ text, entry.2.render = .ok text

theorem coherent_start : Coherent start [] where
  sorted := PathMap.sorted_nil
  outputPath_eq := by simp [start]
  exists_event := by simp [start, PathMap.keys]
  binding_eq := by simp [start]
  populated := by simp [start]
  exists_render := by simp [start]

variable {b later : Build} {events : List Event} {event : Event}

/-- More events take nothing away. -/
theorem Coherent.append (h : b.Coherent events) (more : List Event) :
    b.Coherent (events ++ more) :=
  { h with
    exists_event := fun p hp => by
      obtain ⟨e, he, hpath⟩ := h.exists_event p hp
      exact ⟨e, List.mem_append_left _ he, hpath⟩ }

/-! ## Accepted events -/

theorem Coherent.after_module (h : b.Coherent events) (hopen : b.finished = false)
    (hkind : event.kind = .module) : (b.after event).Coherent events := by
  have hafter : b.after event =
      { b with
        drafts := b.drafts.mapValues fun d => { d with binding := event.modules.head? }
        binding := event.modules.head? } := if_pos hkind
  rw [hafter]
  refine
    { sorted := h.sorted.mapValues fun d : Draft => { d with binding := event.modules.head? }
      outputPath_eq := ?_
      exists_event := fun p hp => ?_
      binding_eq := ?_
      populated := ?_
      exists_render := fun hfinished => ?_ }
  · intro entry hentry
    obtain ⟨old, hold, rfl⟩ := List.mem_map.mp hentry
    exact h.outputPath_eq old hold
  · rw [PathMap.keys_mapValues] at hp
    exact h.exists_event p hp
  · intro entry hentry
    obtain ⟨old, -, rfl⟩ := List.mem_map.mp hentry
    rfl
  · intro entry hentry
    obtain ⟨old, hold, rfl⟩ := List.mem_map.mp hentry
    exact h.populated old hold
  · rw [hopen] at hfinished
    cases hfinished

/-- A path of the drafts that stands at the place of an output path is that path. -/
theorem Coherent.eq_of_order_eq (h : b.Coherent events) {p : Path} (hp : p ∈ b.drafts.keys)
    {l : Location} (horder : p.order l.outputPath = .eq) : p = l.outputPath := by
  obtain ⟨e, -, -, rfl⟩ := h.exists_event p hp
  exact Location.outputPath_eq_of_order_eq horder

/-- The draft that an event finds or brings into being has the path of the event and the module of
the build. -/
theorem Coherent.draftAt (h : b.Coherent events) (l : Location) :
    (b.draftAt l).outputPath = l.outputPath ∧ (b.draftAt l).binding = b.binding := by
  rw [Build.draftAt]
  cases hfound : b.draft? l.outputPath with
  | none =>
    rw [Option.getD_none, newDraft]
    cases hbinding : b.binding <;> exact ⟨rfl, rfl⟩
  | some d =>
    obtain ⟨p, hmem, horder⟩ := PathMap.exists_mem_of_find?_eq_some hfound
    have hp : p = l.outputPath := h.eq_of_order_eq (List.mem_map_of_mem hmem) horder
    exact ⟨(h.outputPath_eq (p, d) hmem).trans hp, h.binding_eq (p, d) hmem⟩

theorem populated_gain (d : Draft) (hcount : event.count = 1) (hkind : event.kind ≠ .module) :
    (d.gain event).Populated := by
  cases event with
  | module o => exact absurd rfl hkind
  | _ o =>
    obtain ⟨declaration, ho⟩ := List.length_eq_one_iff.mp hcount
    simp [Draft.Populated, Draft.gain, Event.plugins, Event.states, Event.actions, Event.configs,
      ho]

theorem Coherent.after_of_kind_ne (h : b.Coherent events) (hopen : b.finished = false)
    (hcount : event.count = 1) (hkind : event.kind ≠ .module) :
    (b.after event).Coherent (events ++ [event]) := by
  obtain ⟨hpath, hbinding⟩ := h.draftAt event.location
  rw [Build.after_of_kind_ne hkind]
  -- every entry but the one at the place of the event was there before
  have hentry : ∀ entry ∈ (b.store event.location ((b.draftAt event.location).gain event)).drafts,
      entry = (event.location.outputPath, (b.draftAt event.location).gain event) ∨
        entry ∈ b.drafts := by
    intro entry hmem
    rcases PathMap.mem_insert hmem with ⟨horder, hvalue⟩ | hold
    · left
      rcases PathMap.mem_keys_insert (List.mem_map_of_mem hmem) with hkey | hkey
      · exact Prod.ext hkey hvalue
      · exact Prod.ext (h.eq_of_order_eq hkey horder) hvalue
    · exact .inr hold
  refine
    { sorted := h.sorted.insert _ _
      outputPath_eq := ?_
      exists_event := ?_
      binding_eq := ?_
      populated := ?_
      exists_render := fun hfinished => ?_ }
  · intro entry hmem
    rcases hentry entry hmem with rfl | hold
    · exact hpath
    · exact h.outputPath_eq entry hold
  · intro p hp
    rcases PathMap.mem_keys_insert hp with rfl | hp
    · exact ⟨event, by simp, hkind, rfl⟩
    · exact (h.append [event]).exists_event p hp
  · intro entry hmem
    rcases hentry entry hmem with rfl | hold
    · exact hbinding
    · exact h.binding_eq entry hold
  · intro entry hmem
    rcases hentry entry hmem with rfl | hold
    · exact populated_gain _ hcount hkind
    · exact h.populated entry hold
  · rw [store, hopen] at hfinished
    cases hfinished

/-- An accepted event keeps a build coherent. -/
theorem Coherent.accept (h : b.Coherent events) (haccept : b.accept event = .ok later) :
    later.Coherent (events ++ [event]) := by
  cases hfinished : b.finished with
  | true =>
    -- what a finished build accepts has no effect
    have hsame : later = b := by
      rw [Build.accept, process_run, if_pos hfinished] at haccept
      split at haccept
      · next hrun =>
        split at hrun
        · cases (Prod.mk.inj hrun).1
        · cases hrun
          exact (Except.ok.inj haccept).symm
      · cases haccept
    rw [hsame]
    exact h.append [event]
  | false =>
    obtain ⟨hcount, -, rfl⟩ := (accept_eq_ok_iff hfinished).mp haccept
    by_cases hkind : event.kind = .module
    · exact (h.after_module hfinished hkind).append [event]
    · exact h.after_of_kind_ne hfinished hcount hkind

/-! ## Calls -/

/-- Bringing out the files keeps a build coherent. -/
theorem Coherent.release (h : b.Coherent events) {files : GeneratedFiles}
    (hrun : release.run b = (.ok files, later)) : later.Coherent events := by
  rw [release_run] at hrun
  split at hrun
  · obtain ⟨-, rfl⟩ := Prod.mk.inj hrun
    exact h
  · split at hrun
    · cases (Prod.mk.inj hrun).1
    · next rendered hrender =>
      obtain ⟨-, rfl⟩ := Prod.mk.inj hrun
      refine { h with exists_render := fun _ entry hmem => ?_ }
      exact Draft.exists_render_iff.mpr (exists_renderAll_iff.mp ⟨rendered, hrender⟩ entry hmem)

theorem acceptedEvents_cons (call : Call) (answer : Answer) (calls : List Call)
    (answers : List Answer) :
    acceptedEvents (call :: calls) (answer :: answers) =
      acceptedEvents [call] [answer] ++ acceptedEvents calls answers := by
  rcases call with event | _ <;> rcases answer with (_ | ⟨⟩) | _ <;> rfl

/-- A call keeps a build coherent, with one more event when it hands in one that is accepted. -/
theorem Coherent.perform (h : b.Coherent events) {call : Call} {answer : Answer}
    (hcall : b.perform call = (answer, later)) :
    later.Coherent (events ++ acceptedEvents [call] [answer]) := by
  cases hemits : answer.emits with
  | true =>
    rcases answer with _ | (_ | files)
    · cases hemits
    · cases hemits
    · cases call with
      | process event => cases (Prod.mk.inj hcall).1
      | produce =>
        obtain ⟨hanswer, rfl⟩ := Prod.mk.inj hcall
        have hrun : Build.release.run b = (.ok files, (Build.release.run b).2) :=
          Prod.ext (Answer.produced.inj hanswer) rfl
        exact (h.release hrun).append _
  | false =>
    rcases perform_cases hcall hemits with ⟨event, rfl, rfl, haccept⟩ | ⟨-, rfl⟩
    · exact h.accept haccept
    · exact h.append _

/-- Calls keep a build coherent, with the events among them that are accepted. -/
theorem Coherent.performAll (h : b.Coherent events) (calls : List Call) :
    (b.performAll calls).2.Coherent (events ++ acceptedEvents calls (b.performAll calls).1) := by
  induction calls generalizing b events with
  | nil => exact h.append _
  | cons call calls ih =>
    have hstep : (b.perform call).2.Coherent
        (events ++ acceptedEvents [call] [(b.perform call).1]) := h.perform rfl
    have hmore := ih hstep
    rw [List.append_assoc, ← acceptedEvents_cons] at hmore
    exact hmore

/-- A build fails for a missing plugin only at a path that has members. -/
theorem Coherent.members_of_missingPlugin (h : b.Coherent events) {p : Path}
    (hcall : b.perform .produce = (.produced (.error (.missingPlugin p)), later)) :
    ∃ d, (p, d) ∈ b.drafts ∧ (d.states ≠ [] ∨ d.actions ≠ [] ∨ d.configs ≠ []) := by
  have hrender : renderAll b.drafts = .error (.missingPlugin p) := by
    have hrun : (Build.release.run b).1 = .error (.missingPlugin p) :=
      Answer.produced.inj (congrArg Prod.fst hcall)
    rw [release_run] at hrun
    split at hrun
    · cases hrun
    · cases hrender : renderAll b.drafts <;> rw [hrender] at hrun <;> cases hrun
      rfl
  obtain ⟨⟨q, d⟩, hmem, hfault, -⟩ := (renderAll_eq_error_iff h.sorted).mp hrender
  obtain ⟨hplugin, rfl⟩ := Draft.fault?_eq_missingPlugin_iff.mp hfault
  obtain rfl : d.outputPath = q := h.outputPath_eq (q, d) hmem
  exact ⟨d, hmem, (h.populated _ hmem).resolve_left (absurd hplugin)⟩

/-- Whatever calls were made on a new build, and whatever they answered, it is coherent with the
events among them that were accepted. A path finds a draft exactly when it takes the same steps as
the path that this draft stands at, and only a draft with members is refused for its plugin. -/
theorem coherent_of_calls (calls : List Call) :
    let (answers, b) := start.performAll calls
    b.Coherent (acceptedEvents calls answers) ∧
      (∀ q d, b.draft? q = some d ↔
        ∃ p, (p, d) ∈ b.drafts ∧ p.components = q.components) ∧
      ∀ p later, b.perform .produce = (.produced (.error (.missingPlugin p)), later) →
        ∃ d, (p, d) ∈ b.drafts ∧ (d.states ≠ [] ∨ d.actions ≠ [] ∨ d.configs ≠ []) := by
  have h := coherent_start.performAll calls
  rw [List.nil_append] at h
  refine ⟨h, fun q d => ⟨fun hfound => ?_, ?_⟩, fun p later => h.members_of_missingPlugin⟩
  · obtain ⟨p, hmem, horder⟩ := PathMap.exists_mem_of_find?_eq_some hfound
    exact ⟨p, hmem, Path.order_eq_iff_components_eq.mp horder⟩
  · rintro ⟨p, hmem, hsteps⟩
    exact h.sorted.find?_of_mem hmem (Path.order_eq_iff_components_eq.mpr hsteps)

end Build

end Registrar
