import Registrar.Proofs.Build.Call
import Registrar.Proofs.Result

/-!
# Why a draft has no text

A draft fails to be rendered for what it lacks: its plugin first, then the values of an enumeration,
of a state before one of an action. Main statements: `Draft.render_eq_error_iff`, and
`Build.renderAll_eq_error_iff`, of several drafts the first one that fails says why.
-/

namespace Registrar

theorem ValueType.code?_eq_none_iff {t : ValueType} : t.code? = none ↔ t = .enum [] := by
  cases t with
  | enum values => cases values <;> simp [code?]
  | _ => simp [code?]

/-- Why members have no text: the first state with an enumeration of no values, and where no state
has one, the first action. -/
def memberFault? (states : List StateDecl) (actions : List ActionDecl) : Option BuildError :=
  ((states.find? (·.valueType = .enum [])).map fun s => .emptyEnum s.name).or
    ((actions.find? (·.valueType = .enum [])).map fun a => .emptyEnum a.name)

/-- Why a draft has no text, if it has none. -/
def Draft.fault? (d : Draft) : Option BuildError :=
  match d.plugin with
  | none => some (.missingPlugin d.outputPath)
  | some _ => memberFault? d.states d.actions

/-- Of all faults only a missing plugin names a path. -/
theorem Draft.fault?_eq_missingPlugin_iff {d : Draft} {p : Path} :
    d.fault? = some (.missingPlugin p) ↔ d.plugin = none ∧ d.outputPath = p := by
  rw [fault?]
  cases d.plugin with
  | none => simp
  | some plugin => simp [memberFault?, Option.or_eq_some_iff]

/-! ## One draft -/

theorem StateDecl.render_eq_error_iff (s : StateDecl) (why : BuildError) :
    s.render = .error why ↔ decide (s.valueType = .enum []) = true ∧ .emptyEnum s.name = why := by
  rw [render, decide_eq_true_iff, ← ValueType.code?_eq_none_iff]
  cases s.valueType.code? <;> simp

theorem ActionDecl.render_eq_error_iff (a : ActionDecl) (why : BuildError) :
    a.render = .error why ↔ decide (a.valueType = .enum []) = true ∧ .emptyEnum a.name = why := by
  rw [render, decide_eq_true_iff, ← ValueType.code?_eq_none_iff]
  cases a.valueType.code? <;> simp

theorem renderEach_eq_error_iff {α : Type} {render : α → Except BuildError String}
    {xs : List α} {why : BuildError} :
    renderEach render xs = .error why ↔ xs.mapM render = .error why := by
  rw [renderEach]
  cases xs.mapM render with
  | error other =>
    refine ⟨fun h => ?_, fun h => ?_⟩ <;>
    · cases h
      rfl
  | ok lines => refine ⟨fun h => ?_, fun h => ?_⟩ <;> cases h

theorem Draft.render_eq_error_iff {d : Draft} {why : BuildError} :
    d.render = .error why ↔ d.fault? = some why := by
  rw [fault?]
  cases hplugin : d.plugin with
  | none =>
    have hrender : d.render = .error (.missingPlugin d.outputPath) := by
      rw [render, hplugin]
      rfl
    simp [hrender]
  | some plugin =>
    have hrender : d.render = (renderEach StateDecl.render d.states >>= fun states =>
        renderEach ActionDecl.render d.actions >>= fun actions =>
          .ok (GoCode.preamble d.package ++ GoCode.opening (d.header plugin) ++ states ++ actions ++
            String.join (d.configs.map ConfigDecl.render) ++ GoCode.closing)) := by
      rw [render, hplugin]
      rfl
    have hstates : ∀ why, renderEach StateDecl.render d.states = .error why ↔
        (d.states.find? (·.valueType = .enum [])).map (fun s => .emptyEnum s.name) = some why :=
      fun why => renderEach_eq_error_iff.trans (mapM_eq_error_iff StateDecl.render_eq_error_iff)
    have hactions : ∀ why, renderEach ActionDecl.render d.actions = .error why ↔
        (d.actions.find? (·.valueType = .enum [])).map (fun a => .emptyEnum a.name) = some why :=
      fun why => renderEach_eq_error_iff.trans (mapM_eq_error_iff ActionDecl.render_eq_error_iff)
    rw [hrender, bind_eq_error_iff, hstates, memberFault?, Option.or_eq_some_iff]
    refine or_congr_right ?_
    -- the actions are looked at when the states have their texts
    refine ⟨?_, ?_⟩
    · rintro ⟨states, hok, h⟩
      refine ⟨?_, ?_⟩
      · cases hfault : (d.states.find? (·.valueType = .enum [])).map
            (fun s => BuildError.emptyEnum s.name) with
        | none => rfl
        | some why =>
          rw [(hstates why).mpr hfault] at hok
          cases hok
      · rcases bind_eq_error_iff.mp h with h | ⟨_, -, h⟩
        · exact (hactions why).mp h
        · cases h
    · rintro ⟨hnone, hfault⟩
      cases hrun : renderEach StateDecl.render d.states with
      | error other =>
        rw [(hstates other).mp hrun] at hnone
        cases hnone
      | ok states => exact ⟨states, rfl, bind_eq_error_iff.mpr (.inl ((hactions why).mpr hfault))⟩

theorem Draft.exists_render_iff {d : Draft} : (∃ text, d.render = .ok text) ↔ d.fault? = none := by
  cases hrender : d.render with
  | error why =>
    rw [render_eq_error_iff.mp hrender]
    simp
  | ok text =>
    cases hfault : d.fault? with
    | none => simp
    | some why =>
      rw [render_eq_error_iff.mpr hfault] at hrender
      cases hrender

/-! ## All drafts -/

namespace Build

theorem renderAll_cons (p : Path) (d : Draft) (rest : PathMap Draft) :
    renderAll ((p, d) :: rest) =
      d.render >>= fun text =>
        renderAll rest >>= fun files => .ok ((p, Text.encode text) :: files) :=
  rfl

/-- Drafts are rendered in their order, and the first one that fails says why. -/
theorem renderAll_eq_error_iff {drafts : PathMap Draft} (h : drafts.Sorted) {why : BuildError} :
    renderAll drafts = .error why ↔
      ∃ entry ∈ drafts, entry.2.fault? = some why ∧
        ∀ other ∈ drafts, other.1.order entry.1 = .lt → other.2.fault? = none := by
  induction drafts with
  | nil =>
    refine ⟨fun hnil => ?_, ?_⟩
    · cases hnil
    · rintro ⟨_, hmem, -⟩
      cases hmem
  | cons first rest ih =>
    obtain ⟨p, d⟩ := first
    obtain ⟨hp, hrest⟩ := PathMap.sorted_cons.mp h
    have hafter : ∀ entry ∈ rest, p.order entry.1 = .lt :=
      fun entry hentry => hp entry.1 (List.mem_map_of_mem hentry)
    have htail : ∀ text,
        (renderAll rest >>= fun files => .ok ((p, Text.encode text) :: files)) = .error why ↔
          renderAll rest = .error why := by
      intro text
      rw [bind_eq_error_iff]
      refine ⟨?_, .inl⟩
      rintro (hfail | ⟨_, -, hok⟩)
      · exact hfail
      · cases hok
    rw [renderAll_cons, bind_eq_error_iff]
    refine ⟨?_, ?_⟩
    · rintro (hfail | ⟨text, hok, hfail⟩)
      · refine ⟨(p, d), List.mem_cons_self .., Draft.render_eq_error_iff.mp hfail, ?_⟩
        intro other hother hlt
        rcases List.mem_cons.mp hother with rfl | hother
        · exact absurd hlt (Path.order_lt_irrefl _)
        · have hgt := Path.order_lt_trans (hafter other hother) hlt
          exact absurd hgt (Path.order_lt_irrefl _)
      · obtain ⟨entry, hentry, hfault, hbefore⟩ := (ih hrest).mp ((htail text).mp hfail)
        refine ⟨entry, List.mem_cons_of_mem _ hentry, hfault, ?_⟩
        intro other hother hlt
        rcases List.mem_cons.mp hother with rfl | hother
        · exact Draft.exists_render_iff.mp ⟨text, hok⟩
        · exact hbefore other hother hlt
    · rintro ⟨entry, hentry, hfault, hbefore⟩
      rcases List.mem_cons.mp hentry with rfl | hentry
      · exact .inl (Draft.render_eq_error_iff.mpr hfault)
      · have hnone := hbefore (p, d) (List.mem_cons_self ..) (hafter entry hentry)
        obtain ⟨text, hok⟩ := Draft.exists_render_iff.mpr hnone
        refine .inr ⟨text, hok, (htail text).mpr ((ih hrest).mpr ⟨entry, hentry, hfault, ?_⟩)⟩
        exact fun other hother => hbefore other (List.mem_cons_of_mem _ hother)

/-- Drafts are rendered when each of them has a text. -/
theorem exists_renderAll_iff {drafts : PathMap Draft} :
    (∃ files, renderAll drafts = .ok files) ↔ ∀ entry ∈ drafts, entry.2.fault? = none := by
  induction drafts with
  | nil => exact ⟨fun _ => by simp, fun _ => ⟨[], rfl⟩⟩
  | cons first rest ih =>
    obtain ⟨p, d⟩ := first
    rw [List.forall_mem_cons, ← ih, ← Draft.exists_render_iff, renderAll_cons]
    refine ⟨?_, ?_⟩
    · rintro ⟨_, hok⟩
      obtain ⟨text, hd, hok⟩ := bind_eq_ok_iff.mp hok
      obtain ⟨files, hrest, -⟩ := bind_eq_ok_iff.mp hok
      exact ⟨⟨text, hd⟩, files, hrest⟩
    · rintro ⟨⟨text, hd⟩, files, hrest⟩
      refine ⟨(p, Text.encode text) :: files, bind_eq_ok_iff.mpr ⟨text, hd, ?_⟩⟩
      exact bind_eq_ok_iff.mpr ⟨files, hrest, rfl⟩

end Build

end Registrar
