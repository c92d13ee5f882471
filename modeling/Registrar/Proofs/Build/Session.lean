import Registrar.Proofs.Build.Call

/-!
# A build that goes on after failures

A session is any sequence of calls on one build: events are handed in and the files are asked for,
and the caller goes on whatever a call answers. Main statement: `emission_once`. The files come out
at most once, they are those of a new build that was given the accepted events alone, and from then
on no call changes the build.

Before the files come out, one call either hands in an event that is accepted or leaves the build as
it was (`Build.perform_cases`), so a run of calls is a run of its accepted events
(`Build.foldlM_acceptedEvents`). Afterwards one call changes nothing (`Build.perform_of_finished`),
and neither does a run.
-/

namespace Registrar

namespace Build

/-- A call of a build. -/
inductive Call where
  /-- hands in an event -/
  | process (event : Event)
  /-- asks for the files -/
  | produce
  deriving DecidableEq, Repr

/-- What a call answers. -/
inductive Answer where
  /-- whether an event was taken -/
  | processed (result : Except BuildError Unit)
  /-- the files, or why there are none -/
  | produced (result : Except BuildError GeneratedFiles)

/-- Makes a call. -/
def perform (b : Build) : Call → Answer × Build
  | .process event =>
    let (result, later) := (Build.process event).run b
    (.processed result, later)
  | .produce =>
    let (result, later) := release.run b
    (.produced result, later)

/-- Makes calls one after the other, whatever they answer. -/
def performAll (b : Build) : List Call → List Answer × Build
  | [] => ([], b)
  | call :: calls =>
    let (answer, next) := b.perform call
    let (answers, last) := performAll next calls
    (answer :: answers, last)

/-- The events among calls that were answered with success. -/
def acceptedEvents : List Call → List Answer → List Event
  | .process event :: calls, .processed (.ok ()) :: answers => event :: acceptedEvents calls answers
  | _ :: calls, _ :: answers => acceptedEvents calls answers
  | _, _ => []

/-- Whether an answer brings out files. -/
def Answer.emits : Answer → Bool
  | .produced (.ok _) => true
  | _ => false

/-- What a finished build answers: no files any more, and success to every event whose occurrence is
well-formed. -/
def lateAnswer : Call → Answer
  | .process event =>
    .processed
      (if event.count = 1 then .ok () else .error (.cardinality event.kind event.count))
  | .produce => .produced (.ok [])

/-! ## Before the files come out -/

/-- A call that brings out no files is an accepted event or changes nothing. -/
theorem perform_cases {b later : Build} {call : Call} {answer : Answer}
    (h : b.perform call = (answer, later)) (hquiet : answer.emits = false) :
    (∃ event, call = .process event ∧ answer = .processed (.ok ()) ∧ b.accept event = .ok later) ∨
      (∀ calls answers, acceptedEvents (call :: calls) (answer :: answers) =
        acceptedEvents calls answers) ∧ later = b := by
  cases call with
  | process event =>
    rw [perform] at h
    rcases hrun : (Build.process event).run b with ⟨_ | ⟨⟩, next⟩
    · rw [hrun] at h
      obtain ⟨rfl, rfl⟩ := Prod.mk.inj h
      exact .inr ⟨fun _ _ => rfl, process_run_error hrun⟩
    · rw [hrun] at h
      obtain ⟨rfl, rfl⟩ := Prod.mk.inj h
      exact .inl ⟨event, rfl, rfl, by rw [accept, hrun]⟩
  | produce =>
    rw [perform] at h
    rcases hrun : release.run b with ⟨_ | files, next⟩
    · rw [hrun] at h
      obtain ⟨rfl, rfl⟩ := Prod.mk.inj h
      exact .inr ⟨fun _ _ => rfl, release_run_error hrun⟩
    · rw [hrun] at h
      obtain ⟨rfl, rfl⟩ := Prod.mk.inj h
      cases hquiet

/-- Calls that bring out no files do to a build what their accepted events do. -/
theorem foldlM_acceptedEvents {b last : Build} {calls : List Call} {answers : List Answer}
    (h : b.performAll calls = (answers, last)) (hquiet : ∀ answer ∈ answers, answer.emits = false) :
    (acceptedEvents calls answers).foldlM accept b = .ok last := by
  induction calls generalizing b answers with
  | nil =>
    obtain ⟨rfl, rfl⟩ := Prod.mk.inj h
    rfl
  | cons call calls ih =>
    rcases hstep : b.perform call with ⟨answer, next⟩
    rcases hrest : next.performAll calls with ⟨answers', last'⟩
    rw [performAll, hstep] at h
    simp only [hrest] at h
    obtain ⟨rfl, rfl⟩ := Prod.mk.inj h
    have hmore := ih hrest fun a ha => hquiet a (List.mem_cons_of_mem _ ha)
    rcases perform_cases hstep (hquiet answer (List.mem_cons_self ..)) with
      ⟨event, rfl, rfl, haccept⟩ | ⟨hskip, rfl⟩
    · rw [acceptedEvents, List.foldlM_cons, haccept]
      exact hmore
    · rw [hskip]
      exact hmore

/-! ## After the files have come out -/

theorem perform_of_finished {b : Build} (h : b.finished = true) (call : Call) :
    b.perform call = (lateAnswer call, b) := by
  cases call with
  | process event =>
    rw [perform, process_run, lateAnswer]
    by_cases hcount : event.count = 1
    · simp only [hcount, ne_eq, not_true_eq_false, if_false, h, if_true]
    · simp only [hcount, ne_eq, not_false_eq_true, if_true, if_false]
  | produce =>
    rw [perform, release_run, if_pos h]
    rfl

theorem performAll_of_finished {b : Build} (h : b.finished = true) (calls : List Call) :
    b.performAll calls = (calls.map lateAnswer, b) := by
  induction calls with
  | nil => rfl
  | cons call calls ih =>
    rw [performAll, perform_of_finished h]
    simp only [ih, List.map_cons]

/-- The first call that brings out files gives those of a new build that was handed the accepted
events alone. From then on no call changes the build: no files come out any more, and an event fails
only when it does not carry one annotation. -/
theorem emission_once {before : List Call} {answers : List Answer} {b done : Build}
    {files : GeneratedFiles} (hbefore : start.performAll before = (answers, b))
    (hfirst : ∀ answer ∈ answers, answer.emits = false)
    (hemit : b.perform .produce = (.produced (.ok files), done)) :
    generate (acceptedEvents before answers) = .ok files ∧ done.finished = true ∧
      ∀ calls, done.performAll calls = (calls.map lateAnswer, done) := by
  have hrelease : release.run b = (.ok files, done) := by
    rcases hrun : release.run b with ⟨result, later⟩
    rw [perform, hrun] at hemit
    obtain ⟨hanswer, rfl⟩ := Prod.mk.inj hemit
    rw [Answer.produced.inj hanswer]
  have hfinished := release_run_ok hrelease
  refine ⟨?_, hfinished, performAll_of_finished hfinished⟩
  rw [generate, complete_run_fst, foldlM_acceptedEvents hbefore hfirst]
  change (b.produce >>= fun out => pure out.1) = _
  rw [produce, hrelease]
  rfl

/-- Calls among which the files are asked for too early, a plugin is declared twice, and an
occurrence carries nothing. -/
def sampleCalls : List Call :=
  let l : Location := ⟨⟨"a"⟩, ⟨"/demo"⟩, "a"⟩
  [.process (.state ⟨l, [⟨"Value", "value", "", .bool⟩]⟩),
    .produce,
    .process (.plugin ⟨l, [⟨"Switch", "switch", "", .logic, "1"⟩]⟩),
    .process (.plugin ⟨l, [⟨"Other", "other", "", .logic, "2"⟩]⟩),
    .process (.action ⟨l, []⟩)]

theorem sampleCalls_emission_once : ∃ answers b files done,
    start.performAll sampleCalls = (answers, b) ∧
      b.perform .produce = (.produced (.ok files), done) ∧
        generate (acceptedEvents sampleCalls answers) = .ok files ∧ done.finished = true ∧
          ∀ calls, done.performAll calls = (calls.map lateAnswer, done) := by
  have hquiet : ∀ answer ∈ (start.performAll sampleCalls).1, answer.emits = false := by
    decide +kernel
  have hemits : ((start.performAll sampleCalls).2.perform .produce).1.emits = true := by
    decide +kernel
  rcases hbefore : start.performAll sampleCalls with ⟨answers, b⟩
  rw [hbefore] at hquiet hemits
  rcases hproduce : b.perform .produce with ⟨answer, done⟩
  rw [hproduce] at hemits
  obtain ⟨files, rfl⟩ : ∃ files, answer = .produced (.ok files) := by
    rcases answer with _ | (_ | files)
    · cases hemits
    · cases hemits
    · exact ⟨files, rfl⟩
  exact ⟨answers, b, files, done, rfl, hproduce, emission_once hbefore hquiet hproduce⟩

end Build

end Registrar
