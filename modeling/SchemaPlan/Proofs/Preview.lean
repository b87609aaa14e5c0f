import SchemaPlan.Proofs.Pipeline

namespace SchemaPlan

open Session

theorem Outcome.answer_ne_unavailable {words? : Option (List String)} {outcome : Outcome}
    {result : CommandResult} :
    outcome.answer words? ≠ .error (.planUnavailable environment result) := by
  cases words? with
  | none => nofun
  | some words =>
    intro h
    cases outcome with
    | finished => cases h
    | missing => cases h
    | denied => cases h

namespace Pipeline

variable {pipeline : Pipeline} {outcome : Outcome}

theorem printed_eq_unavailable_iff {environment : String} {result : CommandResult} :
    pipeline.printed outcome = .error (.planUnavailable environment result) ↔
      environment = pipeline.environment ∧ pipeline.dryRunAnswer outcome = .ok result ∧
        result.ok = false := by
  rw [printed]
  cases ha : pipeline.dryRunAnswer outcome with
  | error failure =>
    refine iff_of_false ?_ ?_
    · intro h
      cases h
      exact Outcome.answer_ne_unavailable ha
    · rintro ⟨-, ⟨⟩, -⟩
  | ok result' =>
    rw [Except.bind]
    constructor
    · intro h
      split at h
      · cases h
      · next hk =>
        cases h
        exact ⟨rfl, rfl, Bool.eq_false_of_not_eq_true hk⟩
    · rintro ⟨rfl, ⟨⟩, hk⟩
      rw [hk]
      rfl

/-- From one workspace, a preview and a plan run the same commands, and the plan is read from what
the preview shows. It fails if the preview does, with the same failure and without a look at what
was printed; and a failure that tells of the dry run has its status and all that it printed. -/
theorem preview_plan (pipeline : Pipeline) (w : Workspace) : ∃ records,
    (pipeline.preview.run.run w).2 = w.ran (pipeline.dryRunCommands.getD []) records ∧
      (pipeline.plan.run.run w).2 = w.ran (pipeline.dryRunCommands.getD [])
        (⟨.info, s!"Generating migration plan for env '{pipeline.environment}'..."⟩ ::
          (records ++ readingRecords (pipeline.preview.run.run w).1)) ∧
      (∀ statements, (pipeline.plan.run.run w).1 = .ok statements ↔
        ∃ output, (pipeline.preview.run.run w).1 = .ok output ∧
          (Plan.statements output).value = statements) ∧
      (∀ failure, (pipeline.plan.run.run w).1 = .error failure ↔
        (pipeline.preview.run.run w).1 = .error failure) ∧
      ∀ environment result,
        (pipeline.preview.run.run w).1 = .error (.planUnavailable environment result) ↔
          environment = pipeline.environment ∧
            pipeline.dryRunAnswer w.outcome = .ok result ∧ result.ok = false := by
  rw [run_preview_printed, run_plan_printed]
  dsimp only
  refine ⟨pipeline.dryRunRecords w.outcome, rfl, rfl, ?_, ?_,
    fun environment result => printed_eq_unavailable_iff⟩
  · intro statements
    cases pipeline.printed w.outcome with
    | error failure =>
      refine iff_of_false nofun ?_
      rintro ⟨output, h, -⟩
      cases h
    | ok output =>
      rw [Except.map, Except.ok.injEq]
      constructor
      · intro h
        exact ⟨output, rfl, h⟩
      · rintro ⟨_, ⟨⟩, h⟩
        exact h
  · intro failure
    cases pipeline.printed w.outcome with
    | error failure' => rw [Except.map, Except.error.injEq, Except.error.injEq]
    | ok output => exact iff_of_false nofun nofun

-- A statement that was printed before the dry run broke off is not read.
example : (standardPipeline.plan.run.run { emptyWorkspace with
    outcomes := [.finished (some "-> DROP TABLE users\n") (some "Error: timeout\n") 1] }).1 =
      .error (.planUnavailable "dev" ⟨"-> DROP TABLE users\nError: timeout\n", 1⟩) := rfl

end Pipeline

end SchemaPlan
