import Registrar.Proofs.Build.Generation
import Registrar.Proofs.Emission.Modes
import Registrar.Proofs.Files.Confined

/-!
# What a run may change

A run changes files only where it has to. Without files to emit, in a dry run and in a check it
leaves every file as it is; a write acts on the files of a build one after the other, up to the
first that fails, and all that it changes is confined to the paths that it writes to
(`FileTree.Confined`). `Wrote` collects what has come of such a write, one lemma for each thing that
emission can do with the next file (`Wrote.cons_unchanged`, `Wrote.cons_written`), and
`emitFrom_write` is the run. A writer gets nothing to print outside a dry run (`onEvents_console`).
Main statement: `Run.onEvents_confined`.
-/

namespace Registrar

open Log (Notice Record)
open FileTree (Confined)
open Text (Bytes)

/-- The console of a world whose output goes to a writer. -/
abbrev World.consoleTo (writer : Bytes → StateM World (Except OsError Unit)) :
    Console (StateM World) where
  input w := (w.input, w)
  print := writer
  printError text w := ((), { w with errors := w.errors ++ text })

namespace Emission

variable {log : Record → StateM World Unit} {o : OutputSettings} {path : Path} {content : Bytes}
  {w w' : World} {r : Report} {files done failed : GeneratedFiles} {t u v : FileTree}
  {written unchanged : List Path}

/-! ## Printing -/

/-- Only a dry run prints: otherwise it makes no difference who takes the output. -/
theorem emitFile_console (hdry : o.dryRun = false) (console other : Console (StateM World)) :
    @emitFile _ _ _ console log o path content = @emitFile _ _ _ other log o path content := by
  obtain ⟨base, dryRun, check⟩ := o
  obtain rfl : dryRun = false := hdry
  rfl

theorem emitFrom_console (hdry : o.dryRun = false) (console other : Console (StateM World)) :
    @emitFrom _ _ _ console log o r files = @emitFrom _ _ _ other log o r files := by
  induction files generalizing r with
  | nil => rfl
  | cons entry files ih =>
    unfold emitFrom
    dsimp only
    rw [emitFile_console hdry console other]
    exact congrArg _ (funext fun outcome => ih)

/-- A check leaves the files as they are, whatever comes of it. -/
theorem leavesFiles_emitFile_check (hlog : ∀ record, LeavesFiles (log record))
    (hdry : o.dryRun = false) (hcheck : o.check = true) (path : Path) (content : Bytes) :
    LeavesFiles (emitFile log o path content).run := by
  intro w
  change w.tree = ((emitFile log o path content).run w).2.tree
  rw [emitFile_run, hdry, hcheck]
  cases w.tree.holds? path content with
  | error reason => rfl
  | ok held =>
    cases held with
    | true => rfl
    | false => exact hlog _ w

section Writer

variable [Console (StateM World)]
  (hprint : ∀ bytes, LeavesFiles (Console.print bytes : StateM World (Except OsError Unit)))

include hprint

theorem leavesFiles_printFile (path : Path) (content : Bytes) :
    LeavesFiles (printFile path content : Action Unit).run :=
  Changes.bind_run (fun w => hprint (Text.encode (heading path)) w)
    (fun _ w => hprint content w) Eq.trans

variable (hlog : ∀ record, LeavesFiles (log record))

include hlog

/-- A dry run and a check leave the files as they are, whatever comes of them. -/
theorem leavesFiles_emitFile (hmode : o.dryRun = true ∨ o.check = true) (path : Path)
    (content : Bytes) : LeavesFiles (emitFile log o path content).run := by
  cases hdry : o.dryRun with
  | true =>
    rw [emitFile]
    rw [if_pos hdry]
    exact Changes.bind_run (leavesFiles_printFile hprint path content) (fun _ => fun _ => rfl)
      Eq.trans
  | false =>
    have hcheck : o.check = true := by simpa [hdry] using hmode
    have hleaves := leavesFiles_emitFile_check hlog hdry hcheck path content
    rwa [emitFile_console hdry _ ‹Console (StateM World)›] at hleaves

theorem leavesFiles_emitFrom (hmode : o.dryRun = true ∨ o.check = true) (r : Report)
    (files : GeneratedFiles) : LeavesFiles (emitFrom log o r files).run := by
  induction files generalizing r with
  | nil => exact fun _ => rfl
  | cons entry files ih =>
    exact Changes.bind_run (leavesFiles_emitFile hprint hlog hmode _ _) (fun outcome => ih _)
      Eq.trans

end Writer

/-! ## One file -/

/-- A write, whether it succeeds or not, is confined to its path. -/
theorem confined_writeFile (path : Path) (content : Bytes) :
    Changes (Confined [path]) (writeFile path content : Action Unit).run :=
  changes_writeFile (P := fun q => q.Begins path) (.refl [path]) .trans .of_makeDirectory
    (fun hbegins hparent => (Path.begins_of_parent hparent).trans hbegins) (.refl path) .of_modify
    content

/-- What a write can do with one file: leave it alone because it holds its content, give it its
content, or fail. -/
theorem emitFile_write (hlog : ∀ record, LeavesFiles (log record)) (hdry : o.dryRun = false)
    (hcheck : o.check = false) {result : Except IoFailure Outcome}
    (h : (emitFile log o path content).run w = (result, w')) :
    (result = .ok .unchanged ∧ w'.tree = w.tree ∧
        w'.tree.read path = .ok content) ∨
      (result = .ok .written ∧ Confined [path] w.tree w'.tree ∧
        w'.tree.read path = .ok content) ∨
      ∃ failure, result = .error failure ∧ Confined [path] w.tree w'.tree := by
  rw [emitFile_run, hdry, hcheck] at h
  cases hholds : w.tree.holds? path content with
  | error reason =>
    rw [hholds] at h
    obtain ⟨rfl, rfl⟩ := Prod.mk.inj h
    exact .inr (.inr ⟨_, rfl, .refl _ _⟩)
  | ok held =>
    rw [hholds] at h
    cases held with
    | true =>
      obtain ⟨rfl, rfl⟩ := Prod.mk.inj h
      have htree : ((log (unchangedRecord path)).run w).2.tree = w.tree := (hlog _ w).symm
      refine .inl ⟨rfl, htree, ?_⟩
      change ((log (unchangedRecord path)).run w).2.tree.read path = _
      rw [htree]
      exact FileTree.holds?_eq_true_iff.mp hholds
    | false =>
      have hconfined : Confined [path] w.tree
          ((writeFile path content : Action Unit).run w).2.tree :=
        confined_writeFile path content w
      cases hwrite : (writeFile path content : Action Unit).run w with
      | mk ended u =>
        rw [hwrite] at hconfined
        cases ended with
        | error failure =>
          simp only [hwrite] at h
          obtain ⟨rfl, rfl⟩ := Prod.mk.inj h
          exact .inr (.inr ⟨failure, rfl, hconfined⟩)
        | ok _ =>
          simp only [hwrite] at h
          obtain ⟨rfl, rfl⟩ := Prod.mk.inj h
          have htree : ((log (writtenRecord path content)).run u).2.tree = u.tree :=
            (hlog _ u).symm
          refine .inr (.inl ⟨rfl, ?_, ?_⟩) <;> rw [htree]
          · exact hconfined
          · exact (writeFile_ok hwrite).2

/-- A file that is found unchanged is left alone. -/
theorem emitFile_unchanged (hlog : ∀ record, LeavesFiles (log record))
    (h : (emitFile log o path content).run w = (.ok .unchanged, w')) : w'.tree = w.tree := by
  cases hdry : o.dryRun with
  | true =>
    rw [emitFile_run, if_pos hdry] at h
    cases (Prod.mk.inj h).1
  | false =>
    cases hcheck : o.check with
    | true =>
      have hleaves := leavesFiles_emitFile_check hlog hdry hcheck path content w
      change w.tree = ((emitFile log o path content).run w).2.tree at hleaves
      rw [h] at hleaves
      exact hleaves.symm
    | false =>
      rcases emitFile_write hlog hdry hcheck h with
        ⟨-, htree, -⟩ | ⟨hother, -⟩ | ⟨failure, hother, -⟩
      · exact htree
      · cases hother
      · cases hother

/-! ## A whole write -/

/-- What has come of a write that dealt with the files `done` and then failed at those of `failed`,
of which there is at most one. -/
structure Wrote (o : OutputSettings) (done failed : GeneratedFiles) (written unchanged : List Path)
    (t u : FileTree) : Prop where
  /-- each path was reported once -/
  reported : (written ++ unchanged).Perm (o.paths done)
  written_inOrder : written.Sublist (o.paths done)
  unchanged_inOrder : unchanged.Sublist (o.paths done)
  /-- what was found unchanged was not written to, and what comes after a failure was not touched -/
  confined : Confined (written ++ o.paths failed) t u
  /-- a file holds its content unless a later one has the same place -/
  fresh : ∀ before path content after, done = before ++ (path, content) :: after →
    (∀ p ∈ o.paths (after ++ failed), t.target p ≠ t.target (o.resolve path)) →
      u.read (o.resolve path) = .ok content

theorem Wrote.nil (t : FileTree) : Wrote o [] [] [] [] t t where
  reported := .refl _
  written_inOrder := .slnil
  unchanged_inOrder := .slnil
  confined := .refl _ t
  fresh before path content after h := by simp at h

theorem Wrote.failure {entry : Path × Bytes} (h : Confined [o.resolve entry.1] t u) :
    Wrote o [] [entry] [] [] t u where
  reported := .refl _
  written_inOrder := .slnil
  unchanged_inOrder := .slnil
  confined := h
  fresh before path content after h := by simp at h

/-- What a file reads as before the rest is written, it reads as afterwards, unless the rest has a
file at its place. -/
theorem Wrote.read (h : Wrote o done failed written unchanged t u) {p : Path} {bytes : Bytes}
    (hread : t.read p = .ok bytes)
    (hother : ∀ q ∈ o.paths (done ++ failed), t.target q ≠ t.target p) :
    u.read p = .ok bytes := by
  refine h.confined.grows.read ?_ hread
  rintro hmem
  obtain ⟨q, hq, htarget⟩ := List.mem_map.mp hmem
  refine hother q ?_ htarget
  rw [OutputSettings.paths, List.map_append]
  exact List.mem_append.mpr ((List.mem_append.mp hq).imp_left fun hq => h.written_inOrder.subset hq)

theorem Wrote.fresh_cons (h : Wrote o done failed written unchanged v u) (hhere : v.here = t.here)
    (hread : v.read (o.resolve path) = .ok content) :
    ∀ before p bytes after, (path, content) :: done = before ++ (p, bytes) :: after →
      (∀ q ∈ o.paths (after ++ failed), t.target q ≠ t.target (o.resolve p)) →
        u.read (o.resolve p) = .ok bytes := by
  intro before p bytes after hsplit hother
  rw [← FileTree.target_of_here hhere] at hother
  cases before with
  | nil =>
    obtain ⟨hentry, rfl⟩ := List.cons.inj hsplit
    obtain ⟨rfl, rfl⟩ := Prod.mk.inj hentry
    exact h.read hread hother
  | cons entry before => exact h.fresh before p bytes after (List.cons.inj hsplit).2 hother

theorem Wrote.cons_unchanged (h : Wrote o done failed written unchanged t u)
    (hread : t.read (o.resolve path) = .ok content) :
    Wrote o ((path, content) :: done) failed written (o.resolve path :: unchanged) t u where
  reported := List.perm_middle.trans (h.reported.cons _)
  written_inOrder := h.written_inOrder.cons _
  unchanged_inOrder := h.unchanged_inOrder.cons_cons _
  confined := h.confined
  fresh := h.fresh_cons rfl hread

theorem Wrote.cons_written (h : Wrote o done failed written unchanged v u)
    (hstep : Confined [o.resolve path] t v)
    (hread : v.read (o.resolve path) = .ok content) :
    Wrote o ((path, content) :: done) failed (o.resolve path :: written) unchanged t u where
  reported := h.reported.cons _
  written_inOrder := h.written_inOrder.cons_cons _
  unchanged_inOrder := h.unchanged_inOrder.cons _
  confined := (hstep.mono (by simp)).trans (h.confined.mono (by simp))
  fresh := h.fresh_cons hstep.here hread

/-- A write deals with one file after the other, and ends with its report when none is left or with
a failure at the next. -/
theorem emitFrom_write (hlog : ∀ record, LeavesFiles (log record)) (hdry : o.dryRun = false)
    (hcheck : o.check = false) {result : Except IoFailure Report}
    (h : (emitFrom log o r files).run w = (result, w')) :
    ∃ done failed later written unchanged, files = done ++ failed ++ later ∧
      (result = .ok { r with
          written := r.written ++ written, unchanged := r.unchanged ++ unchanged } ∧
          failed = [] ∧ later = [] ∨
        ∃ entry failure, result = .error failure ∧ failed = [entry]) ∧
      Wrote o done failed written unchanged w.tree w'.tree := by
  induction files generalizing r w with
  | nil =>
    obtain ⟨rfl, rfl⟩ := Prod.mk.inj h
    exact ⟨[], [], [], [], [], rfl, .inl ⟨by simp, rfl, rfl⟩, .nil _⟩
  | cons entry files ih =>
    obtain ⟨path, content⟩ := entry
    rcases hfirst : (emitFile log o (o.resolve path) content).run w with ⟨first, u⟩
    rw [emitFrom, run_bind, hfirst] at h
    rcases emitFile_write hlog hdry hcheck hfirst with
      ⟨rfl, htree, hread⟩ | ⟨rfl, hconfined, hread⟩ | ⟨failure, rfl, hconfined⟩
    · obtain ⟨done, failed, later, written, unchanged, rfl, hend, hwrote⟩ := ih h
      rw [htree] at hread hwrote
      refine ⟨(path, content) :: done, failed, later, written, o.resolve path :: unchanged, rfl, ?_,
        hwrote.cons_unchanged hread⟩
      simpa [Report.add] using hend
    · obtain ⟨done, failed, later, written, unchanged, rfl, hend, hwrote⟩ := ih h
      refine ⟨(path, content) :: done, failed, later, o.resolve path :: written, unchanged, rfl, ?_,
        hwrote.cons_written hconfined hread⟩
      simpa [Report.add] using hend
    · obtain ⟨rfl, rfl⟩ := Prod.mk.inj h
      exact ⟨[], [(path, content)], files, [], [], rfl, .inr ⟨_, failure, rfl, rfl⟩,
        .failure hconfined⟩

end Emission

/-! ## A run -/

theorem sorted_generate {events : List Event} {files : GeneratedFiles}
    (h : generate events = .ok files) : files.Sorted := by
  rw [PathMap.Sorted, (mapM_text_eq_some (filesOf?_generate h)).1]
  exact pairwise_outputPaths events

namespace Run

variable {o : OutputSettings} {events : List Event} {files : GeneratedFiles}

/-- The events do not make up a build. -/
def Fails (events : List Event) : Prop :=
  ∀ files, generate events ≠ .ok files

/-- A run prints nothing unless it is a dry run with files: otherwise it makes no difference who
takes the output. -/
theorem work_console {log : Record → StateM World Unit}
    (hquiet : Fails events ∨ o.dryRun = false) (console other : Console (StateM World)) :
    @work _ _ _ console log o events = @work _ _ _ other log o events := by
  have htraced := generateTraced_snd events
  unfold work
  rcases hgen : generateTraced events with ⟨records, result⟩
  rw [hgen] at htraced
  cases result with
  | error e => rfl
  | ok files =>
    have hdry : o.dryRun = false := hquiet.resolve_left fun hfails => hfails files htraced.symm
    dsimp only [Emission.emit]
    rw [Emission.emitFrom_console hdry console other]

theorem onEvents_console {log : Notice → StateM World Unit}
    (hquiet : Fails events ∨ o.dryRun = false) (console other : Console (StateM World)) :
    @onEvents _ _ _ console log o events = @onEvents _ _ _ other log o events := by
  unfold onEvents
  dsimp only
  rw [work_console hquiet console other]

/-- A run without files to emit, a dry run and a check leave the files as they are. -/
theorem leavesFiles_onEvents [Console (StateM World)]
    (hprint : ∀ bytes, LeavesFiles (Console.print bytes : StateM World (Except OsError Unit)))
    {log : Notice → StateM World Unit} (hlog : ∀ notice, LeavesFiles (log notice))
    (hkept : Fails events ∨ o.dryRun = true ∨ o.check = true) :
    LeavesFiles (onEvents log o events).run := by
  intro w
  change w.tree = ((onEvents log o events).run w).2.tree
  cases hgenerate : generate events with
  | error e =>
    obtain ⟨w', hrun, htree⟩ := onEvents_run_of_error (o := o) hlog hgenerate w
    rw [hrun]
    exact htree.symm
  | ok files =>
    have hmode : o.dryRun = true ∨ o.check = true :=
      hkept.resolve_left fun hfails => hfails files hgenerate
    obtain ⟨u, w', hu, hrun, htree⟩ := onEvents_run_of_ok (o := o) hlog hgenerate w
    have hemit := Emission.leavesFiles_emitFrom hprint
      (fun record => hlog (.record (some (span events)) record)) hmode {} files u
    rw [hrun]
    exact hu.symm.trans (hemit.trans htree.symm)

/-- A run that writes is a write of its files between notices. -/
theorem onEvents_write {log : Notice → StateM World Unit}
    (hlog : ∀ notice, LeavesFiles (log notice)) (hgenerate : generate events = .ok files)
    (hdry : o.dryRun = false) (hcheck : o.check = false) (w : World) :
    ∃ done failed later written unchanged, files = done ++ failed ++ later ∧
      (((onEvents log o events).run w).1 = .ok { written, unchanged } ∧ failed = [] ∧ later = [] ∨
        ∃ entry failure, ((onEvents log o events).run w).1 = .error (.io failure) ∧
          failed = [entry]) ∧
      Emission.Wrote o done failed written unchanged w.tree
        ((onEvents log o events).run w).2.tree := by
  obtain ⟨u, w', hu, hrun, htree⟩ := onEvents_run_of_ok (o := o) hlog hgenerate w
  dsimp only at hrun htree
  rcases hemit : (Emission.emit (fun record => log (.record (some (span events)) record)) o
    files).run u with ⟨result, v⟩
  rw [hemit] at hrun htree
  obtain ⟨done, failed, later, written, unchanged, hfiles, hend, hwrote⟩ :=
    Emission.emitFrom_write (fun record => hlog (.record (some (span events)) record)) hdry hcheck
      hemit
  rw [hrun, htree, ← hu]
  refine ⟨done, failed, later, written, unchanged, hfiles, ?_, hwrote⟩
  rcases hend with ⟨rfl, hfailed, hlater⟩ | ⟨entry, failure, rfl, hfailed⟩
  · exact .inl ⟨rfl, hfailed, hlater⟩
  · exact .inr ⟨entry, failure, rfl, hfailed⟩

/-- The log of the program, unless it goes to a file, is no concern of the files: they are changed
where the run itself changes them. -/
theorem onEvents_logTo (plan : Log.Plan) (filter : Log.Filter) {sink : Program.Sink}
    (hsink : ∀ path, sink ≠ .file path) (o : OutputSettings) (events : List Event) (w : World) :
    let log : Notice → StateM World Unit := Program.logTo plan filter sink
    let ran := (onEvents log o events).run w
    (Fails events ∨ o.dryRun = true ∨ o.check = true → ran.2.tree = w.tree) ∧
      ∀ files, generate events = .ok files → o.dryRun = false → o.check = false →
        ∃ done failed later written unchanged, files = done ++ failed ++ later ∧
          (ran.1 = .ok { written, unchanged } ∧ failed = [] ∧ later = [] ∨
            ∃ entry failure, ran.1 = .error (.io failure) ∧ failed = [entry]) ∧
          Emission.Wrote o done failed written unchanged w.tree ran.2.tree := by
  have hlog := Program.leavesFiles_logTo plan filter hsink
  refine ⟨fun hkept => ?_, fun files hgenerate hdry hcheck => ?_⟩
  · exact (leavesFiles_onEvents (fun _ _ => rfl) hlog hkept w).symm
  · exact onEvents_write hlog hgenerate hdry hcheck w

/-- A run on events that prints to a writer. -/
def onEventsTo (writer : Bytes → StateM World (Except OsError Unit))
    (log : Notice → StateM World Unit) (o : OutputSettings) (events : List Event) :
    ExceptT RunError (StateM World) Report :=
  @onEvents _ _ _ (World.consoleTo writer) log o events

/-- A run changes files only where it must. Events that make up no build, a dry run and a check
leave every file as it is, whatever else goes wrong. A write deals with the files of the build in
their order, up to the first failure of the host, and changes nothing but the files that it reports
written, the one that it failed at, and directories on the way to these; before the failure every
file holds its content, unless a later one has the same place. The writer is given something only in
a dry run, and only when the events make up a build. What is found unchanged is not written. -/
theorem onEvents_confined {writer : Bytes → StateM World (Except OsError Unit)}
    (hwriter : ∀ bytes, LeavesFiles (writer bytes)) {log : Notice → StateM World Unit}
    (hlog : ∀ notice, LeavesFiles (log notice)) (o : OutputSettings) (events : List Event)
    (w : World) :
    let ran := (onEventsTo writer log o events).run w
    (Fails events ∨ o.dryRun = true ∨ o.check = true → ran.2.tree = w.tree) ∧
      (∀ files, generate events = .ok files → o.dryRun = false → o.check = false →
        files.Sorted ∧ ∃ done failed later written unchanged, files = done ++ failed ++ later ∧
          (ran.1 = .ok { written, unchanged } ∧ failed = [] ∧ later = [] ∨
            ∃ entry failure, ran.1 = .error (.io failure) ∧ failed = [entry]) ∧
          Emission.Wrote o done failed written unchanged w.tree ran.2.tree) ∧
      (Fails events ∨ o.dryRun = false → ∀ other, (onEventsTo other log o events).run w = ran) ∧
      ∀ path content v v',
        (Emission.emitFile (fun record => log (.record (some (span events)) record)) o path
          content).run v = (.ok .unchanged, v') → v'.tree = v.tree := by
  refine ⟨fun hkept => ?_, fun files hgenerate hdry hcheck => ?_, fun hquiet other => ?_,
    fun path content v v' => Emission.emitFile_unchanged fun record => hlog _⟩
  · let console : Console (StateM World) := World.consoleTo writer
    exact (leavesFiles_onEvents hwriter hlog hkept w).symm
  · have hran : onEventsTo writer log o events = onEvents log o events :=
      onEvents_console (.inr hdry) _ _
    rw [hran]
    exact ⟨sorted_generate hgenerate, onEvents_write hlog hgenerate hdry hcheck w⟩
  · exact congrArg (fun run => run.run w) (onEvents_console hquiet _ _)

/-- A writer that takes nothing. -/
def refusingWriter (_ : Bytes) : StateM World (Except OsError Unit) :=
  return .error (.other "Broken pipe (os error 32)")

/-- A log that prints the messages of its records. -/
def sampleNotices : Notice → StateM World Unit
  | .record _ record => Emission.sampleLog record
  | .moment _ _ => return ()

/-- The sample world on a host that has no space left in its eighth entry. -/
def brokenWorld : World :=
  { Emission.sampleWorld with
    grant := fun tree _ =>
      if tree.entries.length < 7 then .whole
      else .broken 7 (.other "No space left on device (os error 28)") }

/-- The run fails at its second file, and leaves seven bytes in it. -/
theorem brokenWorld_fails :
    ((onEventsTo refusingWriter sampleNotices Emission.sampleOutput sampleStream).run
        brokenWorld).1.isOk = false ∧
      (((onEventsTo refusingWriter sampleNotices Emission.sampleOutput sampleStream).run
        brokenWorld).2.tree.read ⟨"/base/b/zzz_plugins_annotations_generated.go"⟩).toOption =
          some (Text.encode "package") := by
  decide +kernel

theorem sampleStream_confined :
    (∀ bytes, LeavesFiles (refusingWriter bytes)) ∧ (∀ notice, LeavesFiles (sampleNotices notice)) ∧
      (∃ done entry later written unchanged,
        generate sampleStream = .ok (done ++ [entry] ++ later) ∧
          Emission.Wrote Emission.sampleOutput done [entry] written unchanged brokenWorld.tree
            ((onEventsTo refusingWriter sampleNotices Emission.sampleOutput sampleStream).run
              brokenWorld).2.tree) ∧
      ((onEventsTo refusingWriter sampleNotices { Emission.sampleOutput with dryRun := true }
        sampleStream).run brokenWorld).2.tree = brokenWorld.tree := by
  have hwriter : ∀ bytes, LeavesFiles (refusingWriter bytes) := fun _ _ => rfl
  have hlog : ∀ notice, LeavesFiles (sampleNotices notice) := by
    intro notice
    cases notice with
    | record _ record => exact Emission.leavesFiles_sampleLog record
    | moment _ _ => exact fun _ => rfl
  refine ⟨hwriter, hlog, ?_,
    (onEvents_confined hwriter hlog _ sampleStream brokenWorld).1 (.inr (.inl rfl))⟩
  cases hgenerate : generate sampleStream with
  | error why =>
    have hok := generate_sampleStream_isOk
    rw [hgenerate] at hok
    cases hok
  | ok files =>
    obtain ⟨-, done, failed, later, written, unchanged, rfl, hend, hwrote⟩ :=
      (onEvents_confined hwriter hlog Emission.sampleOutput sampleStream brokenWorld).2.1 files
        hgenerate rfl rfl
    have hfails := brokenWorld_fails.1
    rcases hend with ⟨hran, -, -⟩ | ⟨entry, failure, -, rfl⟩
    · rw [hran] at hfails
      cases hfails
    · exact ⟨done, entry, later, written, unchanged, rfl, hwrote⟩

end Run

end Registrar
