import Registrar.Proofs.Emission.Coverage
import Registrar.Proofs.Emission.Events
import Registrar.Proofs.Files.Rooted

/-!
# The modes of emission

Emission writes, checks or prints. Each of its files is written to a tree that the writes before
have changed; what carries the results over such a run is that the tree has only grown, by
directories and by the files written so far (`FileTree.Grows`). Main results: a write converges
(`Emission.emit_converges`), and a check and a dry run of the files at the start say and show what a
write of them does (`Emission.emit_modes_agree`).
-/

namespace Registrar

open Log (Notice Record)

/-- The verdict on a file that was given no content yet is that of the tree at the start. -/
theorem FileTree.Grows.holds?_back {t u : FileTree} {files : List Place} {p : Path}
    {content : Text.Bytes} {held : Bool} (h : Grows files t u) (ht : t.Rooted)
    (hup : .parent ∉ p.components) (hfiles : t.target p ∉ files)
    (hholds : u.holds? p content = .ok held) : t.holds? p content = .ok held := by
  cases held with
  | true =>
    exact holds?_eq_true_iff.mpr (h.read_back ht hup hfiles (holds?_eq_true_iff.mp hholds))
  | false =>
    refine holds?_eq_false_iff.mpr ?_
    rcases holds?_eq_false_iff.mp hholds with habsent | ⟨old, hread, hold⟩
    · left
      cases hread : t.read p with
      | ok old =>
        rw [h.read hfiles hread] at habsent
        cases habsent
      | error reason =>
        by_cases hreason : reason = .notFound
        · rw [hreason]
        · rw [h.read_error hread hreason] at habsent
          exact absurd (Except.error.inj habsent) hreason
    · exact .inr ⟨old, h.read_back ht hup hfiles hread, hold⟩

/-- The report of a check, by the report of a write. -/
def Report.ofCheck (r : Report) : Report :=
  { unchanged := r.unchanged, stale := r.written }

theorem Report.ofCheck_add (r : Report) (path : Path) (held : Bool) :
    (r.add path (Emission.rewritten held)).ofCheck =
      r.ofCheck.add path (Emission.checked held) := by
  cases held <;> rfl

namespace Emission

variable {log : Record → StateM World Unit} {o : OutputSettings} {w w' : World} {r r' : Report}
  {files : GeneratedFiles} {t : FileTree} {done : List Place}

theorem emitFrom_cons_run {path : Path} {content : Text.Bytes} {outcome : Outcome} {u : World}
    (h : (emitFile log o (o.resolve path) content).run w = (.ok outcome, u)) :
    (emitFrom log o r ((path, content) :: files)).run w =
      (emitFrom log o (r.add (o.resolve path) outcome) files).run u := by
  rw [emitFrom, run_bind, h]

/-! ## Writing -/

/-- After a write every file reads as it was written: what comes after it goes to other places. -/
theorem emitFrom_write_ok (hlog : ∀ record, LeavesFiles (log record)) (hdry : o.dryRun = false)
    (hcheck : o.check = false) (hplaces : ((o.paths files).map w.tree.target).Nodup)
    (h : (emitFrom log o r files).run w = (.ok r', w')) :
    FileTree.Grows ((o.paths files).map w.tree.target) w.tree w'.tree ∧
      ∀ entry ∈ files, w'.tree.read (o.resolve entry.1) = .ok entry.2 := by
  induction files generalizing r w with
  | nil =>
    obtain ⟨-, rfl⟩ := Prod.mk.inj h
    exact ⟨.refl _ _, fun _ hentry => absurd hentry List.not_mem_nil⟩
  | cons entry files ih =>
    obtain ⟨path, content⟩ := entry
    obtain ⟨outcome, u, hfirst, hrest⟩ := emitFrom_cons_eq_ok_iff.mp h
    obtain ⟨-, hgrows, hread⟩ := emitFile_write_ok hlog hdry hcheck hfirst
    obtain ⟨hother, hplaces⟩ := List.nodup_cons.mp hplaces
    have htarget : u.tree.target = w.tree.target := funext hgrows.target
    rw [← htarget] at hplaces
    obtain ⟨hgrowsRest, hreadRest⟩ := ih hplaces hrest
    rw [htarget] at hgrowsRest
    refine ⟨(hgrows.mono ?_).trans (hgrowsRest.mono (List.subset_cons_self _ _)), ?_⟩
    · exact List.cons_subset_cons _ (List.nil_subset _)
    · intro entry hentry
      rcases List.mem_cons.mp hentry with rfl | hentry
      · refine hgrowsRest.read ?_ hread
        rw [htarget]
        exact hother
      · exact hreadRest entry hentry

/-- Files that hold their contents are found unchanged. -/
theorem emitFrom_of_holds (hlog : ∀ record, LeavesFiles (log record)) (hdry : o.dryRun = false)
    (hholds : ∀ entry ∈ files, w.tree.holds? (o.resolve entry.1) entry.2 = .ok true) :
    ∃ w', (emitFrom log o r files).run w =
      (.ok { r with unchanged := r.unchanged ++ o.paths files }, w') ∧ w'.tree = w.tree := by
  induction files generalizing r w with
  | nil => exact ⟨w, by rw [OutputSettings.paths, List.map_nil, List.append_nil]; rfl, rfl⟩
  | cons entry files ih =>
    obtain ⟨hfirst, hrest⟩ := List.forall_mem_cons.mp hholds
    obtain ⟨u, hrun, hu⟩ := emitFile_of_holds hlog hdry hfirst
    rw [← hu] at hrest
    obtain ⟨w', hrunRest, hw'⟩ := ih (r := r.add (o.resolve entry.1) .unchanged) hrest
    refine ⟨w', ?_, hw'.trans hu⟩
    rw [emitFrom_cons_run hrun, hrunRest]
    simp [Report.add, OutputSettings.paths]

/-- A write converges: its files hold their contents, and whoever writes or checks them again finds
them unchanged and changes nothing. -/
theorem emit_converges (hlog : ∀ record, LeavesFiles (log record)) (hdry : o.dryRun = false)
    (hcheck : o.check = false) (hplaces : ((o.paths files).map w.tree.target).Nodup)
    (hemit : (emit log o files).run w = (.ok r, w')) :
    (∀ entry ∈ files, w'.tree.read (o.resolve entry.1) = .ok entry.2) ∧
      (∃ again, (emit log o files).run w' = (.ok { unchanged := o.paths files }, again) ∧
        again.tree = w'.tree) ∧
      ∃ later, (emit log { o with check := true } files).run w' =
        (.ok { unchanged := o.paths files }, later) ∧ later.tree = w'.tree := by
  obtain ⟨-, hread⟩ := emitFrom_write_ok hlog hdry hcheck hplaces hemit
  have hholds : ∀ entry ∈ files, w'.tree.holds? (o.resolve entry.1) entry.2 = .ok true :=
    fun entry hentry => FileTree.holds?_eq_true_iff.mpr (hread entry hentry)
  exact ⟨hread, emitFrom_of_holds hlog hdry hholds,
    emitFrom_of_holds (o := { o with check := true }) hlog hdry hholds⟩

/-- A log that prints messages. -/
def sampleLog (record : Record) : StateM World Unit :=
  Console.printError record.message

/-- Files below a base directory. -/
def sampleOutput : OutputSettings :=
  { baseDir := some ⟨"/base"⟩ }

/-- A file in a new directory, one that is there, and one that is there with another content; what
it is to hold is no text. -/
def sampleFiles : GeneratedFiles :=
  [(⟨"deep/down/a.go"⟩, Text.encode "package a\n"), (⟨"kept.go"⟩, Text.encode "package b\n"),
    (⟨"stale.go"⟩, [0xff, 0x00])]

/-- A world with a base directory and two files in it. -/
def sampleWorld : World where
  tree := ⟨[(["base"], .directory), (["base", "kept.go"], .file (Text.encode "package b\n")),
    (["base", "stale.go"], .file (Text.encode "package old\n"))], []⟩
  input := []
  output := []
  errors := ""

theorem leavesFiles_sampleLog (record : Record) : LeavesFiles (sampleLog record) :=
  fun _ => rfl

/-- What emission reports of the files. -/
def sampleReport : Report where
  written := [⟨"/base/deep/down/a.go"⟩, ⟨"/base/stale.go"⟩]
  unchanged := [⟨"/base/kept.go"⟩]

theorem emit_sampleFiles : ∃ w',
    (emit sampleLog sampleOutput sampleFiles).run sampleWorld = (.ok sampleReport, w') := by
  have hreport : ((emit sampleLog sampleOutput sampleFiles).run sampleWorld).1 =
      .ok sampleReport := by
    decide +kernel
  rw [← hreport]
  exact ⟨_, (Prod.eta _).symm⟩

theorem sampleFiles_converge : ∃ w',
    (emit sampleLog sampleOutput sampleFiles).run sampleWorld = (.ok sampleReport, w') ∧
      (∀ entry ∈ sampleFiles,
        w'.tree.read (sampleOutput.resolve entry.1) = .ok entry.2) ∧
      (∃ again, (emit sampleLog sampleOutput sampleFiles).run w' =
        (.ok { unchanged := sampleOutput.paths sampleFiles }, again) ∧ again.tree = w'.tree) ∧
      ∃ later, (emit sampleLog { sampleOutput with check := true } sampleFiles).run w' =
        (.ok { unchanged := sampleOutput.paths sampleFiles }, later) ∧ later.tree = w'.tree := by
  obtain ⟨w', hemit⟩ := emit_sampleFiles
  exact ⟨w', hemit, emit_converges leavesFiles_sampleLog rfl rfl (by decide +kernel) hemit⟩

/-! ## Checking -/

/-- A check of the files at the start finds stale what a write has written. The write goes on in a
tree that has grown since, which hides nothing and uncovers nothing at the places still to come. -/
theorem emitFrom_check (hlog : ∀ record, LeavesFiles (log record))
    {checkLog : Record → StateM World Unit} (hcheckLog : ∀ record, LeavesFiles (checkLog record))
    (hdry : o.dryRun = false) (hcheck : o.check = false) (ht : t.Rooted)
    (hup : ∀ path ∈ o.paths files, .parent ∉ path.components)
    (hplaces : ((o.paths files).map t.target).Nodup)
    (hgrows : FileTree.Grows done t w.tree) (hdone : ∀ path ∈ o.paths files, t.target path ∉ done)
    (h : (emitFrom log o r files).run w = (.ok r', w')) {v : World} (hv : v.tree = t) :
    ∃ v', (emitFrom checkLog { o with check := true } r.ofCheck files).run v =
      (.ok r'.ofCheck, v') ∧ v'.tree = t := by
  induction files generalizing r w v done with
  | nil =>
    obtain ⟨hr, -⟩ := Prod.mk.inj h
    obtain rfl := Except.ok.inj hr
    exact ⟨v, rfl, hv⟩
  | cons entry files ih =>
    obtain ⟨path, content⟩ := entry
    obtain ⟨outcome, u, hfirst, hrest⟩ := emitFrom_cons_eq_ok_iff.mp h
    obtain ⟨⟨held, hholds, rfl⟩, hstep, -⟩ := emitFile_write_ok hlog hdry hcheck hfirst
    obtain ⟨hupHere, hupRest⟩ := List.forall_mem_cons.mp hup
    obtain ⟨hother, hplaces⟩ := List.nodup_cons.mp hplaces
    obtain ⟨hdoneHere, hdoneRest⟩ := List.forall_mem_cons.mp hdone
    -- the verdict at the start is the one that the write found
    have hstart : v.tree.holds? (o.resolve path) content = .ok held :=
      hv ▸ hgrows.holds?_back ht hupHere hdoneHere hholds
    obtain ⟨v', hrun, hv'⟩ :=
      emitFile_check (o := { o with check := true }) hcheckLog hdry rfl hstart
    have hgrowsNext : FileTree.Grows (t.target (o.resolve path) :: done) t u.tree := by
      rw [hgrows.target] at hstep
      exact (hgrows.mono (List.subset_cons_self _ _)).trans
        (hstep.mono (List.cons_subset_cons _ (List.nil_subset _)))
    have hdoneNext : ∀ q ∈ o.paths files, t.target q ∉ t.target (o.resolve path) :: done := by
      intro q hq
      rw [List.mem_cons, not_or]
      exact ⟨fun heq => hother (heq ▸ List.mem_map_of_mem hq), hdoneRest q hq⟩
    obtain ⟨v'', hrunRest, hv''⟩ := ih hupRest hplaces hgrowsNext hdoneNext hrest (hv'.trans hv)
    refine ⟨v'', ?_, hv''⟩
    rw [emitFrom_cons_run (o := { o with check := true }) hrun]
    rw [Report.ofCheck_add] at hrunRest
    exact hrunRest

/-! ## Printing -/

/-- What a dry run prints: for each file a line with its path, then its content. -/
def printout (o : OutputSettings) (files : GeneratedFiles) : Text.Bytes :=
  files.flatMap fun (path, content) =>
    Text.encode ("// ── " ++ (o.resolve path).text ++ "\n") ++ content

theorem emitFrom_print (hdry : o.dryRun = true) :
    (emitFrom log o r files).run w =
      (.ok { r with printed := r.printed ++ o.paths files },
        { w with output := w.output ++ printout o files }) := by
  induction files generalizing r w with
  | nil =>
    rw [printout, OutputSettings.paths, List.map_nil, List.flatMap_nil, List.append_nil,
      List.append_nil]
    rfl
  | cons entry files ih =>
    have hfirst : (emitFile log o (o.resolve entry.1) entry.2).run w =
        (.ok .printed,
          { w with
            output := w.output ++ Text.encode (heading (o.resolve entry.1)) ++ entry.2 }) := by
      rw [emitFile_run, if_pos hdry]
    rw [emitFrom_cons_run hfirst, ih]
    simp [Report.add, OutputSettings.paths, printout, heading]

/-! ## Agreement -/

/-- No emission, whether it succeeds or not, leaves an entry outside a directory. -/
theorem emit_rooted (hlog : ∀ record, LeavesFiles (log record)) (o : OutputSettings)
    (files : GeneratedFiles) (hrooted : w.tree.Rooted) :
    ((emit log o files).run w).2.tree.Rooted :=
  changes_emitFrom (R := fun t u => t.Rooted → u.Rooted) (fun _ => id)
    (fun hfirst hnext ht => hnext (hfirst ht)) (fun hmake ht => ht.makeDirectory hmake)
    (fun hmodify ht => ht.modify hmodify) hlog o {} files w hrooted

/-- When a write succeeds, a check of the files at the start finds stale what was written and
unchanged what was not, so that a run in check mode fails exactly when something was written; a dry
run prints all files in their order and does nothing else; and every report of an emission, in
whatever mode, covers the files. -/
theorem emit_modes_agree (hlog : ∀ record, LeavesFiles (log record)) (hdry : o.dryRun = false)
    (hcheck : o.check = false) (hrooted : w.tree.Rooted)
    (hup : ∀ path ∈ o.paths files, .parent ∉ path.components)
    (hplaces : ((o.paths files).map w.tree.target).Nodup)
    (hemit : (emit log o files).run w = (.ok r, w')) :
    (∃ v, (emit log { o with check := true } files).run w =
        (.ok { stale := r.written, unchanged := r.unchanged }, v) ∧ v.tree = w.tree) ∧
      (∀ notices : Notice → StateM World Unit, (∀ notice, LeavesFiles (notices notice)) →
        ∀ events, generate events = .ok files →
          ∃ v, (Run.onEvents notices { o with check := true } events).run w =
            (if r.written = [] then .ok { unchanged := r.unchanged } else .error (.stale r.written),
              v) ∧ v.tree = w.tree) ∧
      (∀ check, (emit log { o with dryRun := true, check := check } files).run w =
        (.ok { printed := o.paths files }, { w with output := w.output ++ printout o files })) ∧
      ∀ mode : OutputSettings, mode.baseDir = o.baseDir → ∀ v v' report,
        (emit log mode files).run v = (.ok report, v') → report.Covers (o.paths files) := by
  have hchecked : ∀ checkLog : Record → StateM World Unit,
      (∀ record, LeavesFiles (checkLog record)) → ∀ v, v.tree = w.tree →
        ∃ v', (emit checkLog { o with check := true } files).run v = (.ok r.ofCheck, v') ∧
          v'.tree = w.tree := by
    intro checkLog hcheckLog v hv
    have hgrows : FileTree.Grows [] w.tree w.tree := .refl [] w.tree
    exact emitFrom_check hlog hcheckLog hdry hcheck hrooted hup hplaces hgrows
      (fun _ _ => List.not_mem_nil) hemit hv
  refine ⟨hchecked log hlog w rfl, ?_, fun check => emitFrom_print rfl, ?_⟩
  · intro notices hnotices events hgenerate
    obtain ⟨v, hrun, hv⟩ := Run.onEvents_run_of_emit hnotices hgenerate
      (hchecked _ fun record => hnotices _)
    refine ⟨v, ?_, hv⟩
    rw [hrun, Run.verdict]
    by_cases hwritten : r.written = []
    · rw [if_pos hwritten, if_pos (show r.ofCheck.stale = [] from hwritten), Report.ofCheck,
        hwritten]
    · rw [if_neg hwritten, if_neg (show r.ofCheck.stale ≠ [] from hwritten)]
      rfl
  · intro mode hbase v v' report hreport
    have hpaths : mode.paths files = o.paths files := by
      unfold OutputSettings.paths OutputSettings.resolve
      rw [hbase]
    rw [← hpaths] at hplaces ⊢
    exact emit_covers hplaces.of_map hreport

theorem sampleFiles_modes_agree : ∃ w',
    (emit sampleLog sampleOutput sampleFiles).run sampleWorld = (.ok sampleReport, w') ∧
      (∃ v, (emit sampleLog { sampleOutput with check := true } sampleFiles).run sampleWorld =
        (.ok { stale := sampleReport.written, unchanged := sampleReport.unchanged }, v) ∧
          v.tree = sampleWorld.tree) ∧
      (∀ check, (emit sampleLog { sampleOutput with dryRun := true, check := check }
        sampleFiles).run sampleWorld =
          (.ok { printed := sampleOutput.paths sampleFiles },
            { sampleWorld with
              output := sampleWorld.output ++ printout sampleOutput sampleFiles })) ∧
      sampleReport.Covers (sampleOutput.paths sampleFiles) := by
  obtain ⟨w', hemit⟩ := emit_sampleFiles
  obtain ⟨hcheck, -, hprint, hcovers⟩ := emit_modes_agree leavesFiles_sampleLog rfl rfl
    (by decide +kernel) (by decide +kernel) (by decide +kernel) hemit
  exact ⟨w', hemit, hcheck, hprint, hcovers sampleOutput rfl sampleWorld w' sampleReport hemit⟩

end Emission

end Registrar
