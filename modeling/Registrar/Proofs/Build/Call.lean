import Mathlib.Data.List.Basic
import Registrar.Build
import Registrar.Proofs.Paths.Map

/-!
# What one call does to a build

A call of a build takes an event or brings out the files. `Build.process_run` says all that an event
can do: it fails for its cardinality, or is dropped because the files are out, or fails for a
duplicate, or is recorded. `Build.release_run` says the same of the files. Every failure leaves the
build as it was, although a draft comes into being before its plugin is checked: a new draft has no
plugin, so it cannot be what fails.
-/

namespace Registrar

namespace Event

/-- How many annotations the event carries. -/
def count : Event → Nat
  | .module o => o.annotations.length
  | .plugin o => o.annotations.length
  | .state o => o.annotations.length
  | .action o => o.annotations.length
  | .config o => o.annotations.length

/-- The modules that the event declares. -/
def modules : Event → List ModuleDecl
  | .module o => o.annotations
  | _ => []

/-- The plugins that the event declares. -/
def plugins : Event → List PluginDecl
  | .plugin o => o.annotations
  | _ => []

/-- The states that the event declares. -/
def states : Event → List StateDecl
  | .state o => o.annotations
  | _ => []

/-- The actions that the event declares. -/
def actions : Event → List ActionDecl
  | .action o => o.annotations
  | _ => []

/-- The configuration fields that the event declares. -/
def configs : Event → List ConfigDecl
  | .config o => o.annotations
  | _ => []

end Event

namespace Draft

/-- The draft with what an event declares. -/
def gain (d : Draft) (event : Event) : Draft :=
  { d with
    plugin := d.plugin.or event.plugins.head?
    states := d.states ++ event.states
    actions := d.actions ++ event.actions
    configs := d.configs ++ event.configs }

theorem gain_plugin {d : Draft} (hd : d.plugin = none) {o : Occurrence PluginDecl} {p : PluginDecl}
    (ho : o.annotations = [p]) : d.gain (.plugin o) = { d with plugin := some p } := by
  simp [gain, Event.plugins, Event.states, Event.actions, Event.configs, hd, ho]

theorem gain_state (d : Draft) {o : Occurrence StateDecl} {s : StateDecl}
    (ho : o.annotations = [s]) : d.gain (.state o) = d.addState s := by
  simp [gain, addState, Event.plugins, Event.states, Event.actions, Event.configs, ho]

theorem gain_action (d : Draft) {o : Occurrence ActionDecl} {a : ActionDecl}
    (ho : o.annotations = [a]) : d.gain (.action o) = d.addAction a := by
  simp [gain, addAction, Event.plugins, Event.states, Event.actions, Event.configs, ho]

theorem gain_config (d : Draft) {o : Occurrence ConfigDecl} {c : ConfigDecl}
    (ho : o.annotations = [c]) : d.gain (.config o) = d.addConfig c := by
  simp [gain, addConfig, Event.plugins, Event.states, Event.actions, Event.configs, ho]

end Draft

namespace Build

/-! ## Parts of a call -/

theorem take_run {α : Type} (kind : Kind) (o : Occurrence α) (record : α → Action Unit)
    (b : Build) :
    (take kind o record).run b =
      match o.annotations with
      | [declaration] => if b.finished then (.ok (), b) else (record declaration).run b
      | others => (.error (.cardinality kind others.length), b) := by
  obtain ⟨location, annotations⟩ := o
  rcases annotations with _ | ⟨first, _ | ⟨second, more⟩⟩
  · rfl
  · change ((if b.finished then pure () else record first : Action Unit)).run b = _
    by_cases hb : b.finished = true
    · rw [if_pos hb]
      exact (if_pos hb).symm
    · rw [if_neg hb]
      exact (if_neg hb).symm
  · rfl

theorem take_run_open {α : Type} {kind : Kind} {o : Occurrence α} {declaration : α}
    (ho : o.annotations = [declaration]) {b : Build} (hopen : b.finished = false)
    (record : α → Action Unit) :
    (take kind o record).run b = (record declaration).run b := by
  rw [take_run, ho]
  exact if_neg (by simp [hopen])

theorem declareModule_run (m : ModuleDecl) (b : Build) :
    (declareModule m).run b =
      match b.binding with
      | some _ => (.error .duplicateModule, b)
      | none =>
        (.ok (), { b with drafts := b.drafts.mapValues (·.bind m), binding := some m }) := by
  change ((match b.binding with
    | some _ => throw .duplicateModule
    | none => do
      modify fun b => { b with drafts := b.drafts.mapValues (·.bind m) }
      modify fun b => { b with binding := some m } : Action Unit)).run b = _
  cases b.binding <;> rfl

/-- The draft that an event from a location finds, or brings into being. -/
def draftAt (b : Build) (l : Location) : Draft :=
  (b.draft? l.outputPath).getD (b.newDraft l)

/-- The build in which a location has a draft. -/
def withDraft (b : Build) (l : Location) : Build :=
  match b.draft? l.outputPath with
  | some _ => b
  | none => b.store l (b.newDraft l)

theorem store_store (b : Build) (l : Location) (first last : Draft) :
    (b.store l first).store l last = b.store l last := by
  simp only [store, PathMap.insert_insert]

theorem store_withDraft (b : Build) (l : Location) (d : Draft) :
    (b.withDraft l).store l d = b.store l d := by
  rw [withDraft]
  split
  · rfl
  · exact b.store_store l _ d

theorem draftFor_run (l : Location) (b : Build) :
    (draftFor l).run b = (.ok (b.draftAt l), b.withDraft l) := by
  change ((match b.draft? l.outputPath with
    | some d => pure d
    | none => do
      set (b.store l (b.newDraft l))
      pure (b.newDraft l) : Action Draft)).run b = _
  rw [draftAt, withDraft]
  cases b.draft? l.outputPath <;> rfl

theorem amend_run (l : Location) (change : Draft → Except BuildError Draft) (b : Build) :
    (amend l change).run b =
      match change (b.draftAt l) with
      | .ok d => (.ok (), b.store l d)
      | .error why => (.error why, b.withDraft l) := by
  rw [amend, Action.run_bind, draftFor_run]
  simp only
  rw [Action.run_bind]
  cases change (b.draftAt l) with
  | error why => rfl
  | ok d => exact congrArg (Prod.mk _) (b.store_withDraft l d)

/-! ## Events -/

/-- Why the unfinished build refuses an event that carries one annotation. -/
def fault? (b : Build) (event : Event) : Option BuildError :=
  match event.kind with
  | .module => b.binding.map fun _ => .duplicateModule
  | .plugin => do
    let d ← b.draft? event.location.outputPath
    let _ ← d.plugin
    return .duplicatePlugin d.outputPath
  | .state | .action | .config => none

/-- The unfinished build after an event that it does not refuse. -/
def after (b : Build) (event : Event) : Build :=
  if event.kind = .module then
    { b with
      drafts := b.drafts.mapValues fun d => { d with binding := event.modules.head? }
      binding := event.modules.head? }
  else b.store event.location ((b.draftAt event.location).gain event)

theorem after_module {b : Build} {o : Occurrence ModuleDecl} {m : ModuleDecl}
    (ho : o.annotations = [m]) :
    b.after (.module o) =
      { b with drafts := b.drafts.mapValues (·.bind m), binding := some m } := by
  simp only [after, Event.kind, if_true, Event.modules, ho, List.head?_cons]
  rfl

theorem after_of_kind_ne {b : Build} {event : Event} (h : event.kind ≠ .module) :
    b.after event = b.store event.location ((b.draftAt event.location).gain event) :=
  if_neg h

theorem plugin_newDraft (b : Build) (l : Location) : (b.newDraft l).plugin = none := by
  rw [newDraft]
  cases b.binding <;> rfl

/-- Only a draft that was there before can have a plugin, so a refused plugin brings no draft into
being. -/
theorem withDraft_of_plugin {b : Build} {l : Location} {p : PluginDecl}
    (h : (b.draftAt l).plugin = some p) :
    ∃ d, b.draft? l.outputPath = some d ∧ b.draftAt l = d ∧ b.withDraft l = b := by
  rw [draftAt] at h
  cases hd : b.draft? l.outputPath with
  | none =>
    rw [hd, Option.getD_none, plugin_newDraft] at h
    cases h
  | some d => exact ⟨d, rfl, by rw [draftAt, hd, Option.getD_some], by rw [withDraft, hd]⟩

/-- What an event does to an unfinished build when it carries one annotation. -/
theorem process_run_open {b : Build} (hopen : b.finished = false) {event : Event}
    (hcount : event.count = 1) :
    (process event).run b =
      match b.fault? event with
      | some why => (.error why, b)
      | none => (.ok (), b.after event) := by
  cases event with
  | module o =>
    obtain ⟨m, hm⟩ := List.length_eq_one_iff.mp hcount
    rw [process, take_run_open hm hopen, declareModule_run, after_module hm, fault?, Event.kind]
    cases b.binding <;> rfl
  | plugin o =>
    obtain ⟨p, hp⟩ := List.length_eq_one_iff.mp hcount
    rw [process, take_run_open hp hopen, amend_run, Draft.addPlugin]
    cases hplugin : (b.draftAt o.location).plugin with
    | none =>
      have hfault : b.fault? (.plugin o) = none := by
        rw [draftAt] at hplugin
        cases hd : b.draft? o.location.outputPath with
        | none => simp [fault?, Event.kind, Event.location, hd]
        | some d =>
          rw [hd, Option.getD_some] at hplugin
          simp [fault?, Event.kind, Event.location, hd, hplugin]
      rw [hfault, ← Draft.gain_plugin hplugin hp]
      rfl
    | some q =>
      obtain ⟨d, hfound, hd, hwith⟩ := withDraft_of_plugin hplugin
      have hfault : b.fault? (.plugin o) = some (.duplicatePlugin d.outputPath) := by
        rw [hd] at hplugin
        simp [fault?, Event.kind, Event.location, hfound, hplugin]
      rw [hfault, hwith, hd]
  | state o =>
    obtain ⟨s, hs⟩ := List.length_eq_one_iff.mp hcount
    rw [process, take_run_open hs hopen, amend_run, ← Draft.gain_state _ hs]
    rfl
  | action o =>
    obtain ⟨a, ha⟩ := List.length_eq_one_iff.mp hcount
    rw [process, take_run_open ha hopen, amend_run, ← Draft.gain_action _ ha]
    rfl
  | config o =>
    obtain ⟨c, hc⟩ := List.length_eq_one_iff.mp hcount
    rw [process, take_run_open hc hopen, amend_run, ← Draft.gain_config _ hc]
    rfl

theorem process_run_finished {b : Build} (hfinished : b.finished = true) {event : Event}
    (hcount : event.count = 1) : (process event).run b = (.ok (), b) := by
  cases event <;>
  · obtain ⟨declaration, ho⟩ := List.length_eq_one_iff.mp hcount
    rw [process, take_run, ho]
    exact if_pos hfinished

theorem take_run_of_count_ne {α : Type} {kind : Kind} {o : Occurrence α}
    (ho : o.annotations.length ≠ 1) (record : α → Action Unit) (b : Build) :
    (take kind o record).run b = (.error (.cardinality kind o.annotations.length), b) := by
  rw [take_run]
  split
  · next h => exact absurd (by rw [h]; rfl) ho
  · rfl

theorem process_run_of_count_ne (b : Build) {event : Event} (hcount : event.count ≠ 1) :
    (process event).run b = (.error (.cardinality event.kind event.count), b) := by
  cases event <;> exact take_run_of_count_ne hcount _ b

/-- All that an event can do to a build. -/
theorem process_run (b : Build) (event : Event) :
    (process event).run b =
      if event.count ≠ 1 then (.error (.cardinality event.kind event.count), b)
      else if b.finished then (.ok (), b)
      else
        match b.fault? event with
        | some why => (.error why, b)
        | none => (.ok (), b.after event) := by
  by_cases hcount : event.count = 1
  · rw [if_neg (by simpa using hcount)]
    by_cases hopen : b.finished = true
    · rw [if_pos hopen]
      exact process_run_finished hopen hcount
    · rw [if_neg hopen]
      exact process_run_open (by simpa using hopen) hcount
  · rw [if_pos hcount]
    exact process_run_of_count_ne b hcount

/-- An event that fails leaves the build as it was. -/
theorem process_run_error {b later : Build} {event : Event} {why : BuildError}
    (h : (process event).run b = (.error why, later)) : later = b := by
  rw [process_run] at h
  split at h
  · exact (Prod.mk.inj h).2.symm
  · split at h
    · cases (Prod.mk.inj h).1
    · split at h
      · exact (Prod.mk.inj h).2.symm
      · cases (Prod.mk.inj h).1

/-- An unfinished build takes exactly the events with one annotation that it has no fault to find
with. -/
theorem accept_eq_ok_iff {b later : Build} (hopen : b.finished = false) {event : Event} :
    b.accept event = .ok later ↔
      event.count = 1 ∧ b.fault? event = none ∧ later = b.after event := by
  rw [accept, process_run]
  by_cases hcount : event.count = 1
  · cases hfault : b.fault? event with
    | none => simp [hcount, hopen, eq_comm]
    | some why => simp [hcount, hopen]
  · simp [hcount]

/-! ## Files -/

/-- All that bringing out the files can do to a build. -/
theorem release_run (b : Build) :
    release.run b =
      if b.finished then (.ok [], b)
      else
        match renderAll b.drafts with
        | .error why => (.error why, b)
        | .ok files => (.ok files, { b with finished := true }) := by
  change ((if b.finished then pure [] else do
    let files ← renderAll b.drafts
    set { b with finished := true }
    pure files : Action GeneratedFiles)).run b = _
  by_cases hb : b.finished = true
  · rw [if_pos hb, if_pos hb]
    rfl
  · rw [if_neg hb, if_neg hb, Action.run_bind]
    cases renderAll b.drafts <;> rfl

/-- A build that fails to bring out its files is as it was. -/
theorem release_run_error {b later : Build} {why : BuildError}
    (h : release.run b = (.error why, later)) : later = b := by
  rw [release_run] at h
  split at h
  · cases (Prod.mk.inj h).1
  · split at h
    · exact (Prod.mk.inj h).2.symm
    · cases (Prod.mk.inj h).1

/-- A build that has brought out its files is finished. -/
theorem release_run_ok {b later : Build} {files : GeneratedFiles}
    (h : release.run b = (.ok files, later)) : later.finished = true := by
  rw [release_run] at h
  split at h
  · next hb =>
    obtain ⟨-, rfl⟩ := Prod.mk.inj h
    exact hb
  · split at h
    · cases (Prod.mk.inj h).1
    · obtain ⟨-, rfl⟩ := Prod.mk.inj h
      rfl

end Build

end Registrar
