import Mathlib.Data.List.InsertIdx
import Registrar.Proofs.Build.Faults

/-!
# The place of the module

A build hands its module to the drafts that are there when the module is declared, and to every
later draft when it comes into being. Both ways lead to the same drafts: a build that learned of the
module early takes the same events as one that learns of it late, and what they make of the two is
the same up to the module (`Build.accept_learn`). So a stream may declare its module anywhere. Main
statement: `generate_insertIdx_module`.
-/

namespace Registrar

/-- Whether the event declares a module and nothing else. -/
def Event.DeclaresModule (event : Event) : Prop :=
  event.kind = .module ∧ event.count = 1

namespace Build

variable {b later : Build} {event : Event} {events : List Event} {m : ModuleDecl}

/-- The build after its module became known. -/
def learn (b : Build) (m : ModuleDecl) : Build :=
  { b with drafts := b.drafts.mapValues (·.bind m), binding := some m }

/-- Whether the build goes on and knows no module. -/
def Unbound (b : Build) : Prop :=
  b.finished = false ∧ b.binding = none

theorem unbound_start : start.Unbound :=
  ⟨rfl, rfl⟩

/-! ## Drafts -/

theorem draft?_learn (b : Build) (m : ModuleDecl) (p : Path) :
    (b.learn m).draft? p = (b.draft? p).map (·.bind m) := by
  rw [draft?, draft?, learn, PathMap.find?_mapValues]

/-- A draft that comes into being after the module is one that came into being before it and was
handed the module. -/
theorem Unbound.draftAt_learn (h : b.Unbound) (m : ModuleDecl) (l : Location) :
    (b.learn m).draftAt l = (b.draftAt l).bind m := by
  have hnew : (b.learn m).newDraft l = (b.newDraft l).bind m := by
    simp only [newDraft, learn, h.2]
  rw [draftAt, draftAt, draft?_learn, hnew]
  cases b.draft? l.outputPath <;> rfl

theorem store_learn (b : Build) (m : ModuleDecl) (l : Location) (d : Draft) :
    (b.learn m).store l (d.bind m) = (b.store l d).learn m := by
  simp only [store, learn, PathMap.insert_mapValues (fun d : Draft => d.bind m)]

theorem gain_bind (d : Draft) (m : ModuleDecl) (event : Event) :
    (d.bind m).gain event = (d.gain event).bind m :=
  rfl

/-! ## Events -/

theorem fault?_learn (b : Build) (m : ModuleDecl) (hkind : event.kind ≠ .module) :
    (b.learn m).fault? event = b.fault? event := by
  cases event with
  | module o => exact absurd rfl hkind
  | plugin o =>
    simp only [fault?, Event.kind, draft?_learn]
    cases b.draft? (Event.plugin o).location.outputPath <;> rfl
  | state | action | config => rfl

theorem Unbound.after_learn (h : b.Unbound) (m : ModuleDecl) (hkind : event.kind ≠ .module) :
    (b.learn m).after event = (b.after event).learn m := by
  rw [after_of_kind_ne hkind, after_of_kind_ne hkind, h.draftAt_learn, gain_bind, store_learn]

/-- An event that declares no module leaves a build without one. -/
theorem Unbound.accept (h : b.Unbound) (hevent : ¬ event.DeclaresModule)
    (haccept : b.accept event = .ok later) : later.Unbound := by
  obtain ⟨hcount, -, rfl⟩ := (accept_eq_ok_iff h.1).mp haccept
  have hkind : event.kind ≠ .module := fun hkind => hevent ⟨hkind, hcount⟩
  rw [after_of_kind_ne hkind]
  exact h

/-- A build takes an event, or refuses it, no matter whether it knows the module yet. -/
theorem Unbound.accept_learn (h : b.Unbound) (m : ModuleDecl) (hevent : ¬ event.DeclaresModule) :
    (b.learn m).accept event = (b.accept event).map (·.learn m) := by
  have hopen : (b.learn m).finished = false := h.1
  rw [Build.accept, Build.accept]
  by_cases hcount : event.count = 1
  · have hkind : event.kind ≠ .module := fun hkind => hevent ⟨hkind, hcount⟩
    rw [process_run_open hopen hcount, process_run_open h.1 hcount, fault?_learn b m hkind,
      h.after_learn m hkind]
    cases b.fault? event <;> rfl
  · rw [process_run_of_count_ne _ hcount, process_run_of_count_ne _ hcount]
    rfl

theorem Unbound.accept_module (h : b.Unbound) {o : Occurrence ModuleDecl}
    (ho : o.annotations = [m]) : b.accept (.module o) = .ok (b.learn m) := by
  have hcount : (Event.module o).count = 1 := by
    rw [Event.count, ho]
    rfl
  have hfault : b.fault? (.module o) = none := by
    rw [fault?, Event.kind, h.2]
    rfl
  exact (accept_eq_ok_iff h.1).mpr ⟨hcount, hfault, (after_module ho).symm⟩

/-! ## Streams -/

/-- A stream leads to the same build before and after the module, up to the module. -/
theorem Unbound.foldlM_learn (h : b.Unbound) (m : ModuleDecl)
    (hevents : ∀ e ∈ events, ¬ e.DeclaresModule) :
    events.foldlM Build.accept (b.learn m) = (events.foldlM Build.accept b).map (·.learn m) := by
  induction events generalizing b with
  | nil => rfl
  | cons event events ih =>
    obtain ⟨hevent, hrest⟩ := List.forall_mem_cons.mp hevents
    rw [List.foldlM_cons, List.foldlM_cons, h.accept_learn m hevent]
    cases haccept : b.accept event with
    | error why => rfl
    | ok next => exact ih (h.accept hevent haccept) hrest

/-- Whatever its place, the module is as good as declared behind all other events. -/
theorem Unbound.foldlM_insertIdx (h : b.Unbound) (hevents : ∀ e ∈ events, ¬ e.DeclaresModule)
    {o : Occurrence ModuleDecl} (ho : o.annotations = [m]) {i : Nat} (hi : i ≤ events.length) :
    (events.insertIdx i (.module o)).foldlM Build.accept b =
      (events.foldlM Build.accept b).map (·.learn m) := by
  induction events generalizing b i with
  | nil =>
    obtain rfl : i = 0 := Nat.le_zero.mp hi
    rw [List.insertIdx_zero, List.foldlM_cons, h.accept_module ho]
    rfl
  | cons event events ih =>
    cases i with
    | zero =>
      rw [List.insertIdx_zero, List.foldlM_cons, h.accept_module ho]
      exact h.foldlM_learn m hevents
    | succ i =>
      obtain ⟨hevent, hrest⟩ := List.forall_mem_cons.mp hevents
      rw [List.insertIdx_succ_cons, List.foldlM_cons, List.foldlM_cons]
      cases haccept : b.accept event with
      | error why => rfl
      | ok next => exact ih (h.accept hevent haccept) hrest (Nat.le_of_succ_le_succ hi)

end Build

/-- A stream with a module generates what the other events make of a build that learns of the module
last. -/
theorem generate_insertIdx {events : List Event} (hevents : ∀ e ∈ events, ¬ e.DeclaresModule)
    {o : Occurrence ModuleDecl} {m : ModuleDecl} (ho : o.annotations = [m]) {i : Nat}
    (hi : i ≤ events.length) :
    generate (events.insertIdx i (.module o)) =
      events.foldlM Build.accept Build.start >>= fun b => Build.renderAll (b.learn m).drafts := by
  rw [generate_eq_bind, Build.unbound_start.foldlM_insertIdx hevents ho hi]
  cases events.foldlM Build.accept Build.start <;> rfl

/-- The one module of a stream may be declared at any place: the files are the same, and so is the
failure where there is one. -/
theorem generate_insertIdx_module {events : List Event}
    (hevents : ∀ e ∈ events, ¬ e.DeclaresModule) {m : Event} (hm : m.DeclaresModule) {i j : Nat}
    (hi : i ≤ events.length) (hj : j ≤ events.length) :
    generate (events.insertIdx i m) = generate (events.insertIdx j m) := by
  cases m with
  | module o =>
    obtain ⟨m, ho⟩ := List.length_eq_one_iff.mp hm.2
    rw [generate_insertIdx hevents ho hi, generate_insertIdx hevents ho hj]
  | plugin | state | action | config => cases hm.1

/-- The sample stream has its module last, and a plugin takes its version from it. -/
theorem sampleStream_module_anywhere :
    let events := sampleStream.take 3
    let m : Event := .module ⟨sampleLocation ".", [⟨some "2.0"⟩]⟩
    (∀ e ∈ events, ¬ e.DeclaresModule) ∧ m.DeclaresModule ∧
      ∀ i ≤ 3, generate (events.insertIdx i m) = generate sampleStream := by
  intro events m
  have hevents : ∀ e ∈ events, ¬ e.DeclaresModule := by
    simp [events, sampleStream, Event.DeclaresModule, Event.kind]
  have hm : m.DeclaresModule := ⟨rfl, rfl⟩
  exact ⟨hevents, hm, fun i hi => generate_insertIdx_module hevents hm hi (Nat.le_refl 3)⟩

end Registrar
