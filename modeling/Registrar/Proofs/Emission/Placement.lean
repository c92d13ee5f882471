import Registrar.Proofs.Build.Generation
import Registrar.Proofs.Emission.Modes
import Registrar.Proofs.Paths.Resolve

/-!
# Which files of a build fall together

A build tells its files apart by the places that their directories lead to, before any base
directory counts. Below a base two of them can be one file: an absolute directory may name what a
relative one leads to, and steps above the base may drop names that differ. The files of a build
stay apart exactly when no two of its directories lead to one place under the base
(`nodup_clean_paths_iff`), and then a write that succeeds leaves each with its content
(`Emission.read_of_emit`). That is so when all directories are absolute, or all are relative and
none goes above its start (`nodup_clean_paths_of_absolute`, `nodup_clean_paths_of_relative`), and
not in general (`sampleCollision_one_file`).
-/

namespace Registrar

open Log (Record)

section Placement

variable {events : List Event} {files : GeneratedFiles} {o : OutputSettings} {root : Path}
  {base : List String}

theorem nodup_keys_generate (h : generate events = .ok files) : files.keys.Nodup := by
  rw [(mapM_text_eq_some (filesOf?_generate h)).1]
  refine (pairwise_outputPaths events).imp ?_
  rintro p _ hlt rfl
  exact Path.order_lt_irrefl p hlt

variable (hroot : o.baseDir = some root) (hbase : root.destination = .belowRoot base)

include hroot hbase

/-- The files of a build stay apart exactly when no two of its directories lead to one place under
the base. -/
theorem nodup_clean_paths_iff (h : generate events = .ok files) :
    ((o.paths files).map Path.clean).Nodup ↔
      ∀ d ∈ events, ∀ e ∈ events, d.kind ≠ .module → e.kind ≠ .module →
        d.location.dir.destination.under base = e.location.dir.destination.under base →
          d.location.dir.destination = e.location.dir.destination := by
  have hkeys : (o.paths files).map Path.clean = files.keys.map fun p => (o.resolve p).clean := by
    simp [OutputSettings.paths, PathMap.keys]
  rw [hkeys, List.nodup_map_iff_inj_on (nodup_keys_generate h)]
  constructor
  · intro hinj d hd e he hdkind hekind hunder
    have hsame := hinj _ ((mem_keys_generate h).mpr ⟨d, hd, hdkind, rfl⟩) _
      ((mem_keys_generate h).mpr ⟨e, he, hekind, rfl⟩)
      ((Location.clean_resolve_eq_iff hroot hbase d.location e.location).mpr hunder)
    exact Location.components_outputPath_eq_iff.mp (congrArg Path.components hsame)
  · intro hinj p hp q hq hclean
    obtain ⟨d, hd, hdkind, rfl⟩ := (mem_keys_generate h).mp hp
    obtain ⟨e, he, hekind, rfl⟩ := (mem_keys_generate h).mp hq
    have hdestination := hinj d hd e he hdkind hekind
      ((Location.clean_resolve_eq_iff hroot hbase d.location e.location).mp hclean)
    refine Location.outputPath_eq_of_order_eq (Path.order_eq_iff_components_eq.mpr ?_)
    exact Location.components_outputPath_eq_iff.mpr hdestination

theorem nodup_clean_paths_of_absolute (h : generate events = .ok files)
    (hevents : ∀ e ∈ events, e.location.dir.isAbsolute = true) :
    ((o.paths files).map Path.clean).Nodup := by
  refine (nodup_clean_paths_iff hroot hbase h).mpr fun d hd e he _ _ hunder => ?_
  rwa [Destination.under_of_belowRoot (Path.exists_destination_of_isAbsolute (hevents d hd)),
    Destination.under_of_belowRoot (Path.exists_destination_of_isAbsolute (hevents e he))]
    at hunder

theorem nodup_clean_paths_of_relative (h : generate events = .ok files)
    (hevents : ∀ e ∈ events, ∃ names, e.location.dir.destination = .belowStart 0 names) :
    ((o.paths files).map Path.clean).Nodup := by
  refine (nodup_clean_paths_iff hroot hbase h).mpr fun d hd e he _ _ hunder => ?_
  obtain ⟨names, hnames⟩ := hevents d hd
  obtain ⟨others, hothers⟩ := hevents e he
  rw [hnames, hothers] at hunder ⊢
  simpa [Destination.under] using hunder

variable (habsolute : root.isAbsolute = true)

include habsolute

omit hbase in
/-- Absolute paths that clean to different paths name different places of every tree. -/
theorem nodup_places (t : FileTree) (hclean : ((o.paths files).map Path.clean).Nodup) :
    ((o.paths files).map t.target).Nodup := by
  refine List.pairwise_map.mpr ((List.pairwise_map.mp hclean).imp_of_mem ?_)
  intro p q hp hq hne htarget
  have habsolutePath : ∀ path ∈ o.paths files, path.isAbsolute = true := by
    intro path hpath
    obtain ⟨entry, -, rfl⟩ := List.mem_map.mp hpath
    exact OutputSettings.isAbsolute_resolve hroot habsolute entry.1
  rw [t.target_of_isAbsolute (habsolutePath p hp), t.target_of_isAbsolute (habsolutePath q hq),
    List.reverse_inj] at htarget
  obtain ⟨names, hnames⟩ := Path.exists_destination_of_isAbsolute (habsolutePath p hp)
  obtain ⟨others, hothers⟩ := Path.exists_destination_of_isAbsolute (habsolutePath q hq)
  rw [hnames, hothers] at htarget
  refine hne (Path.clean_eq_iff.mpr ?_)
  rw [hnames, hothers]
  exact congrArg Destination.belowRoot htarget

omit hbase in
/-- A write that succeeds leaves files that stay apart with their contents. -/
theorem Emission.read_of_emit {log : Record → StateM World Unit} {w w' : World} {r : Report}
    (hlog : ∀ record, LeavesFiles (log record)) (hdry : o.dryRun = false)
    (hcheck : o.check = false) (hclean : ((o.paths files).map Path.clean).Nodup)
    (hemit : (emit log o files).run w = (.ok r, w')) :
    ∀ entry ∈ files, w'.tree.read (o.resolve entry.1) = .ok entry.2 :=
  (emitFrom_write_ok hlog hdry hcheck (nodup_places hroot habsolute w.tree hclean) hemit).2

end Placement

/-- Two plugins, one in a relative directory and one in the absolute directory that this is below
the base directory of `Emission.sampleOutput`. -/
def sampleCollision : List Event :=
  [.plugin ⟨⟨⟨"x"⟩, ⟨"/work/demo"⟩, "logic"⟩, [⟨"Switch", "first", "", .logic, "1"⟩]⟩,
    .plugin ⟨⟨⟨"/base/x"⟩, ⟨"/work/demo"⟩, "logic"⟩, [⟨"Switch", "second", "", .logic, "1"⟩]⟩]

/-- The two files of the build go to one path. -/
theorem sampleCollision_one_file :
    (generate sampleCollision).toOption.map Emission.sampleOutput.paths =
      some [⟨"/base/x/zzz_plugins_annotations_generated.go"⟩,
        ⟨"/base/x/zzz_plugins_annotations_generated.go"⟩] := by
  decide +kernel

end Registrar
