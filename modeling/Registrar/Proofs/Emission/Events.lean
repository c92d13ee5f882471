import Registrar.Proofs.Emission.Actions
import Registrar.Program

/-!
# Emission as part of a run

A run on events reports, generates and emits. With a log that changes no file, a run that does not
generate leaves the files as they are (`Run.onEvents_run_of_error`), and otherwise the emission
decides what becomes of the files and what the run comes to (`Run.onEvents_run_of_ok`), whatever
console the files may be printed to.
-/

namespace Registrar

open Log (Notice Record)

/-- The log of the program changes no file unless it goes to one. -/
theorem Program.leavesFiles_logTo (plan : Log.Plan) (filter : Log.Filter) {sink : Sink}
    (hsink : ∀ path, sink ≠ .file path) (notice : Notice) :
    LeavesFiles (logTo plan filter sink notice : StateM World Unit) := by
  unfold logTo
  split
  · cases sink with
    | output => exact fun _ => rfl
    | errors => exact fun _ => rfl
    | file path => exact absurd rfl (hsink path)
  · exact fun _ => rfl

namespace Run

variable {log : Record → StateM World Unit} {o : OutputSettings} {events : List Event}
  {files : GeneratedFiles} {report : Report} {w : World}

/-- What a run comes to when its emission succeeds. -/
def verdict (report : Report) : Except RunError Report :=
  if report.stale = [] then .ok report else .error (.stale report.stale)

/-- What a run comes to, by what its emission comes to. -/
def conclude : Except IoFailure Report → Except RunError Report
  | .ok report => verdict report
  | .error failure => .error (.io failure)

theorem logAll_run (hlog : ∀ record, LeavesFiles (log record)) (records : List Record) (w : World) :
    ∃ w', ((forIn records PUnit.unit fun record _ => do
      log record
      return ForInStep.yield PUnit.unit) : ExceptT RunError (StateM World) PUnit).run w =
        (.ok PUnit.unit, w') ∧ w'.tree = w.tree := by
  induction records generalizing w with
  | nil => exact ⟨w, rfl, rfl⟩
  | cons record records ih =>
    obtain ⟨w', hrun, hw'⟩ := ih ((log record).run w).2
    refine ⟨w', ?_, hw'.trans (hlog record w).symm⟩
    rw [List.forIn_cons, run_bind]
    exact hrun

section Console

variable [Console (StateM World)]

/-- The work of a run logs first, and then fails or emits what was generated. -/
theorem work_run (hlog : ∀ record, LeavesFiles (log record)) (o : OutputSettings)
    (events : List Event) (w : World) :
    ∃ u w', u.tree = w.tree ∧
      match generate events with
      | .error e => (work log o events).run w = (.error (.build e), w') ∧ w'.tree = u.tree
      | .ok files =>
        (work log o events).run w = (conclude ((Emission.emit log o files).run u).1, w') ∧
          w'.tree = ((Emission.emit log o files).run u).2.tree := by
  have htraced := generateTraced_snd events
  unfold work
  rcases hgen : generateTraced events with ⟨records, result⟩
  rw [hgen] at htraced
  dsimp only at htraced ⊢
  obtain ⟨u, hlogged, hu⟩ := logAll_run hlog records w
  refine ⟨u, ?_⟩
  rw [← htraced, run_bind, hlogged]
  dsimp only
  cases result with
  | error e => exact ⟨u, hu, rfl, rfl⟩
  | ok files =>
    have hadapt : (ExceptT.adapt RunError.io (Emission.emit log o files)).run u =
        (((Emission.emit log o files).run u).1.mapError RunError.io,
          ((Emission.emit log o files).run u).2) :=
      rfl
    dsimp only
    rw [run_bind, hadapt]
    rcases (Emission.emit log o files).run u with ⟨emitted, v⟩
    cases emitted with
    | error failure => exact ⟨v, hu, rfl, rfl⟩
    | ok report =>
      dsimp only [Except.mapError, conclude, verdict]
      by_cases hstale : report.stale = []
      · rw [if_pos (List.isEmpty_iff.mpr hstale), if_pos hstale]
        exact ⟨_, hu, rfl, (hlog _ v).symm⟩
      · rw [if_neg (fun hempty => hstale (List.isEmpty_iff.mp hempty)), if_neg hstale]
        exact ⟨v, hu, rfl, rfl⟩

theorem onEvents_run (log : Notice → StateM World Unit) (o : OutputSettings) (events : List Event)
    (w : World) :
    (onEvents log o events).run w =
      let s := span events
      let entered := ((log (.moment .enter s)).run ((log (.moment .new s)).run w).2).2
      let worked := (work (fun record => log (.record (some s) record)) o events).run entered
      (worked.1, ((log (.moment .close s)).run ((log (.moment .exit s)).run worked.2).2).2) :=
  rfl

/-- A run that logs to a log outside the files is its work between notices. -/
theorem onEvents_run_of_work {log : Notice → StateM World Unit}
    (hlog : ∀ notice, LeavesFiles (log notice)) (o : OutputSettings) (events : List Event)
    (w : World) :
    ∃ u w', u.tree = w.tree ∧
      (onEvents log o events).run w =
        (((work (fun record => log (.record (some (span events)) record)) o events).run u).1, w') ∧
      w'.tree =
        ((work (fun record => log (.record (some (span events)) record)) o
          events).run u).2.tree := by
  have hmoment : ∀ moment v, ((log (.moment moment (span events))).run v).2.tree = v.tree :=
    fun moment v => (hlog _ v).symm
  rw [onEvents_run]
  refine ⟨_, _, ?_, rfl, ?_⟩
  · rw [hmoment, hmoment]
  · rw [hmoment, hmoment]

theorem onEvents_run_of_error {log : Notice → StateM World Unit} {e : BuildError}
    (hlog : ∀ notice, LeavesFiles (log notice)) (hgenerate : generate events = .error e)
    (w : World) :
    ∃ w', (onEvents log o events).run w = (.error (.build e), w') ∧ w'.tree = w.tree := by
  obtain ⟨u, w', hu, hrun, hw'⟩ := onEvents_run_of_work hlog o events w
  obtain ⟨v, v', hv, hwork⟩ := work_run (fun record => hlog (.record (some (span events)) record))
    o events u
  rw [hgenerate] at hwork
  rw [hwork.1] at hrun hw'
  exact ⟨w', hrun, hw'.trans (hwork.2.trans (hv.trans hu))⟩

/-- A run whose events generate files comes to what its emission comes to, and leaves the files that
the emission leaves. -/
theorem onEvents_run_of_ok {log : Notice → StateM World Unit}
    (hlog : ∀ notice, LeavesFiles (log notice)) (hgenerate : generate events = .ok files)
    (w : World) :
    let emitted (u : World) :=
      (Emission.emit (fun record => log (.record (some (span events)) record)) o files).run u
    ∃ u w', u.tree = w.tree ∧
      (onEvents log o events).run w = (conclude (emitted u).1, w') ∧
      w'.tree = (emitted u).2.tree := by
  obtain ⟨u, w', hu, hrun, hw'⟩ := onEvents_run_of_work hlog o events w
  obtain ⟨v, v', hv, hwork⟩ := work_run (fun record => hlog (.record (some (span events)) record))
    o events u
  rw [hgenerate] at hwork
  rw [hwork.1] at hrun hw'
  exact ⟨v, w', hv.trans hu, hrun, hw'.trans hwork.2⟩

end Console

/-- A run whose events generate files fails after an emission that succeeds exactly when files are
stale. -/
theorem onEvents_run_of_emit {log : Notice → StateM World Unit}
    (hlog : ∀ notice, LeavesFiles (log notice)) (hgenerate : generate events = .ok files)
    (hemit : ∀ v, v.tree = w.tree → ∃ v',
      (Emission.emit (fun record => log (.record (some (span events)) record)) o files).run v =
        (.ok report, v') ∧ v'.tree = w.tree) :
    ∃ w', (onEvents log o events).run w = (verdict report, w') ∧ w'.tree = w.tree := by
  obtain ⟨u, w', hu, hrun, hw'⟩ := onEvents_run_of_ok hlog hgenerate w
  obtain ⟨v, hemitted, hv⟩ := hemit u hu
  dsimp only at hrun hw'
  rw [hemitted] at hrun hw'
  exact ⟨w', hrun, hw'.trans hv⟩

end Run

end Registrar
