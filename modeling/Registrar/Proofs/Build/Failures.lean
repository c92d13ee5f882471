import Registrar.Proofs.Build.Session

/-!
# Failures leave no trace

A call that fails leaves the build as it was: no draft comes into being, and nothing that was
recorded changes. So it makes no difference to later calls whether it was made. Main statement:
`failures_leave_no_trace`; the run of a session without some of its failures is the transcript of
the session without them.
-/

namespace Registrar

namespace Build

/-- Whether an answer is a failure. -/
def Answer.fails : Answer → Bool
  | .processed (.error _) => true
  | .produced (.error _) => true
  | _ => false

/-- Calls with what they answer. -/
def transcript (b : Build) (calls : List Call) : List (Call × Answer) :=
  calls.zip (b.performAll calls).1

/-- The entries of a transcript that are no failures. -/
def successes (entries : List (Call × Answer)) : List (Call × Answer) :=
  entries.filter fun entry => !entry.2.fails

variable {b : Build} {call : Call} {calls : List Call} {kept : List (Call × Answer)}

/-! ## One call -/

/-- A call that fails changes nothing. -/
theorem perform_of_fails (h : (b.perform call).1.fails = true) : (b.perform call).2 = b := by
  cases call with
  | process event =>
    rcases hrun : (Build.process event).run b with ⟨_ | _, later⟩
    · rw [perform, hrun]
      exact process_run_error hrun
    · rw [perform, hrun] at h
      cases h
  | produce =>
    rcases hrun : release.run b with ⟨_ | _, later⟩
    · rw [perform, hrun]
      exact release_run_error hrun
    · rw [perform, hrun] at h
      cases h

/-! ## A run of calls -/

theorem transcript_cons (b : Build) (call : Call) (calls : List Call) :
    b.transcript (call :: calls) =
      (call, (b.perform call).1) :: (b.perform call).2.transcript calls :=
  rfl

theorem performAll_cons_snd (b : Build) (call : Call) (calls : List Call) :
    (b.performAll (call :: calls)).2 = ((b.perform call).2.performAll calls).2 :=
  rfl

/-- Of a transcript whose first entry is a success, no part without that entry holds all
successes. -/
theorem successes_ne_of_sublist {entry : Call × Answer} {entries : List (Call × Answer)}
    (hsub : kept.Sublist entries) (hentry : entry.2.fails = false) :
    successes kept ≠ successes (entry :: entries) := by
  intro h
  have hle := (hsub.filter fun entry => !entry.2.fails).length_le
  have hlength := congrArg List.length h
  simp only [successes, List.filter_cons, hentry, Bool.not_false, if_true, List.length_cons]
    at hlength
  omega

/-- Whoever makes the calls of a transcript except for some that failed has the answers of the
transcript, and ends with the same build. -/
theorem transcript_of_sublist (hsub : kept.Sublist (b.transcript calls))
    (hkept : successes kept = successes (b.transcript calls)) :
    b.transcript (kept.map Prod.fst) = kept ∧
      (b.performAll (kept.map Prod.fst)).2 = (b.performAll calls).2 := by
  induction calls generalizing b kept with
  | nil =>
    obtain rfl : kept = [] := List.sublist_nil.mp hsub
    exact ⟨rfl, rfl⟩
  | cons call calls ih =>
    rw [transcript_cons] at hsub hkept
    rw [performAll_cons_snd]
    rcases List.sublist_cons_iff.mp hsub with hsub | ⟨more, rfl, hmore⟩
    · -- the first call is left out, so it was a failure and the build is as before
      cases hfails : (b.perform call).1.fails with
      | false => exact absurd hkept (successes_ne_of_sublist hsub hfails)
      | true =>
        have hsame : (b.perform call).2 = b := perform_of_fails hfails
        have hrest : successes kept = successes (b.transcript calls) := by
          simpa [successes, List.filter_cons, hfails, hsame] using hkept
        rw [hsame] at hsub ⊢
        exact ih hsub hrest
    · have hrest : successes more = successes ((b.perform call).2.transcript calls) := by
        simp only [successes, List.filter_cons] at hkept
        split at hkept
        · exact List.tail_eq_of_cons_eq hkept
        · exact hkept
      obtain ⟨hanswers, hlast⟩ := ih hmore hrest
      refine ⟨?_, hlast⟩
      rw [List.map_cons, transcript_cons, hanswers]

/-- A call that fails leaves the build as it was. Hence failures may be left out of a session, all
of them or some: the calls that remain answer what they answered, and lead to the same build. -/
theorem failures_leave_no_trace (b : Build) :
    (∀ call, (b.perform call).1.fails = true → (b.perform call).2 = b) ∧
      ∀ calls kept, kept.Sublist (b.transcript calls) →
        successes kept = successes (b.transcript calls) →
          b.transcript (kept.map Prod.fst) = kept ∧
            (b.performAll (kept.map Prod.fst)).2 = (b.performAll calls).2 :=
  ⟨fun _ => perform_of_fails, fun _ _ => transcript_of_sublist⟩

/-- Without the early wish for the files and without the second plugin, the other calls of the
sample answer the same. The call that hands in nothing may stay, although it fails. -/
theorem sampleCalls_without_failures :
    let kept := ((start.transcript sampleCalls).eraseIdx 3).eraseIdx 1
    kept.Sublist (start.transcript sampleCalls) ∧
      successes kept = successes (start.transcript sampleCalls) ∧
        start.transcript (kept.map Prod.fst) = kept ∧
          (start.performAll (kept.map Prod.fst)).2 = (start.performAll sampleCalls).2 := by
  intro kept
  have hsub : kept.Sublist (start.transcript sampleCalls) :=
    (List.eraseIdx_sublist _ 1).trans (List.eraseIdx_sublist _ 3)
  have hfails : (start.transcript sampleCalls).map (·.2.fails) =
      [false, true, false, true, true] := by
    decide +kernel
  have hkept : successes kept = successes (start.transcript sampleCalls) := by
    dsimp only [kept]
    generalize start.transcript sampleCalls = entries at hfails
    simp only [List.map_eq_cons_iff, List.map_eq_nil_iff] at hfails
    obtain ⟨_, _, rfl, -, _, _, rfl, hsecond, _, _, rfl, -, _, _, rfl, hfourth, _, _, rfl, -,
      rfl⟩ := hfails
    simp [successes, List.filter_cons, hsecond, hfourth]
  exact ⟨hsub, hkept, (failures_leave_no_trace start).2 sampleCalls kept hsub hkept⟩

end Build

end Registrar
