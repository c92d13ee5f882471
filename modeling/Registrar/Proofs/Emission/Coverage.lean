import Mathlib.Data.List.Nodup
import Registrar.Proofs.Emission.Actions

/-!
# What a report covers

A report holds each path in the list of what became of it. However emission went for the single
files, the report of a whole emission covers its paths: each stands in it exactly once, and every
list keeps the order of the files (`Emission.emit_covers`).
-/

namespace Registrar

open Log (Record)

/-- Where generated files go, in their order. -/
def OutputSettings.paths (o : OutputSettings) (files : GeneratedFiles) : List Path :=
  files.map fun entry => o.resolve entry.1

namespace Report

variable {r : Report} {path : Path} {outcome other : Outcome} {paths : List Path}

/-- The paths of one outcome. -/
def filed (r : Report) : Outcome → List Path
  | .written => r.written
  | .unchanged => r.unchanged
  | .stale => r.stale
  | .printed => r.printed

/-- The paths of all lists. -/
def all (r : Report) : List Path :=
  r.written ++ r.unchanged ++ r.stale ++ r.printed

theorem total_eq_length_all (r : Report) : r.total = r.all.length := by
  simp only [total, all, List.length_append]

theorem filed_add (r : Report) (path : Path) (outcome other : Outcome) :
    (r.add path outcome).filed other =
      if other = outcome then r.filed other ++ [path] else r.filed other := by
  cases outcome <;> cases other <;> rfl

theorem count_all_add (r : Report) (path : Path) (outcome : Outcome) (q : Path) :
    (r.add path outcome).all.count q = r.all.count q + [path].count q := by
  cases outcome <;> simp only [add, all, List.count_append] <;> omega

/-- Each path stands exactly once in the report, nothing else stands there, and every list keeps the
order of the paths. -/
structure Covers (r : Report) (paths : List Path) : Prop where
  once : ∀ path ∈ paths, r.all.count path = 1
  only : ∀ path ∈ r.all, path ∈ paths
  inOrder : ∀ outcome, (r.filed outcome).Sublist paths
  total : r.total = paths.length

/-- The report came from an earlier one by filing some paths in their order. -/
structure Gains (r : Report) (paths : List Path) (r' : Report) : Prop where
  all : ∀ path, r'.all.count path = r.all.count path + paths.count path
  filed : ∀ outcome, ∃ more, r'.filed outcome = r.filed outcome ++ more ∧ more.Sublist paths

theorem gains_add (r : Report) (path : Path) (outcome : Outcome) :
    r.Gains [path] (r.add path outcome) where
  all := r.count_all_add path outcome
  filed other := by
    rw [filed_add]
    split_ifs
    · exact ⟨[path], rfl, .refl _⟩
    · exact ⟨[], (List.append_nil _).symm, List.nil_sublist _⟩

theorem Gains.trans {r r' r'' : Report} {paths more : List Path} (h : r.Gains paths r')
    (h' : r'.Gains more r'') : r.Gains (paths ++ more) r'' where
  all path := by
    rw [h'.all, h.all, List.count_append, Nat.add_assoc]
  filed outcome := by
    obtain ⟨new, hnew, hsub⟩ := h.filed outcome
    obtain ⟨later, hlater, hsub'⟩ := h'.filed outcome
    exact ⟨new ++ later, by rw [hlater, hnew, List.append_assoc], hsub.append hsub'⟩

/-- A report that was empty covers what it gained. -/
theorem Gains.covers (h : ({} : Report).Gains paths r) (hnodup : paths.Nodup) :
    r.Covers paths := by
  have hcount : ∀ path, r.all.count path = paths.count path := by
    intro path
    rw [h.all path]
    exact Nat.zero_add _
  refine ⟨?_, ?_, ?_, ?_⟩
  · intro path hpath
    rw [hcount path, List.count_eq_one_of_mem hnodup hpath]
  · intro path hpath
    rw [← List.count_pos_iff, ← hcount path]
    exact List.count_pos_iff.mpr hpath
  · intro outcome
    obtain ⟨more, hmore, hsub⟩ := h.filed outcome
    have hempty : ({} : Report).filed outcome = [] := by cases outcome <;> rfl
    rw [hmore, hempty]
    exact hsub
  · rw [total_eq_length_all]
    exact (List.perm_iff_count.mpr hcount).length_eq

end Report

namespace Emission

variable {log : Record → StateM World Unit} {o : OutputSettings} {path : Path}
  {content : Text.Bytes} {w w' : World} {r r' : Report} {files : GeneratedFiles}

/-- Emission that succeeds has emitted the first file and then the others. -/
theorem emitFrom_cons_eq_ok_iff :
    (emitFrom log o r ((path, content) :: files)).run w = (.ok r', w') ↔
      ∃ outcome u, (emitFile log o (o.resolve path) content).run w = (.ok outcome, u) ∧
        (emitFrom log o (r.add (o.resolve path) outcome) files).run u = (.ok r', w') := by
  rw [emitFrom, run_bind]
  rcases (emitFile log o (o.resolve path) content).run w with ⟨result, u⟩
  constructor
  · intro h
    cases result with
    | error failure => cases (Prod.mk.inj h).1
    | ok outcome => exact ⟨outcome, u, rfl, h⟩
  · rintro ⟨outcome, v, hfirst, hrest⟩
    obtain ⟨rfl, rfl⟩ := Prod.mk.inj hfirst
    exact hrest

theorem emitFrom_gains (h : (emitFrom log o r files).run w = (.ok r', w')) :
    r.Gains (o.paths files) r' := by
  induction files generalizing r w with
  | nil =>
    obtain rfl := Except.ok.inj (Prod.mk.inj h).1
    exact ⟨fun _ => rfl, fun _ => ⟨[], (List.append_nil _).symm, .slnil⟩⟩
  | cons entry files ih =>
    obtain ⟨outcome, u, -, hrest⟩ := emitFrom_cons_eq_ok_iff.mp h
    exact (r.gains_add _ outcome).trans (ih hrest)

/-- In every mode, the report of an emission covers its paths. -/
theorem emit_covers (hnodup : (o.paths files).Nodup)
    (h : (emit log o files).run w = (.ok r, w')) : r.Covers (o.paths files) :=
  (emitFrom_gains h).covers hnodup

end Emission

end Registrar
