import SchemaPlan.Proofs.Breaking

namespace SchemaPlan

open Session

theorem Outcome.complaints_eq_nil_iff {outcome : Outcome} :
    outcome.complaints = [] ↔ outcome.succeeds = true ∨ outcome = .denied := by
  cases outcome with
  | finished output errors status =>
    change (if decide (status = 0) then ([] : List LogRecord) else [_]) = [] ↔
      decide (status = 0) = true ∨ _
    by_cases hs : status = 0
    · simp [hs]
    · simp [hs]
  | missing => exact iff_of_false nofun nofun
  | denied => exact iff_of_true rfl (.inr rfl)

theorem Outcome.severity_of_mem_complaints {outcome : Outcome} {entry : LogRecord}
    (h : entry ∈ outcome.complaints) : entry.severity = .warning := by
  rw [complaints] at h
  split at h
  · split at h
    · cases h
    · cases List.mem_singleton.1 h
      rfl
  · cases h

theorem Outcome.severity_of_mem_records {words : List String} {outcome : Outcome}
    {entry : LogRecord} (h : entry ∈ outcome.records words) : entry.severity = .debug := by
  rw [records] at h
  obtain rfl | h := List.mem_cons.1 h
  · rfl
  · split at h
    · cases List.mem_singleton.1 h
      rfl
    · cases h

namespace Pipeline

variable {pipeline : Pipeline} {words : List String} {output errors : Option String} {w : Workspace}

theorem warnings_applyRecords
    (hw : pipeline.atlas.applyWords? pipeline.settings.environment false true = some words)
    (hd : pipeline.settings.schemaDump = some true) (hs : w.outcome.succeeds = true) :
    (pipeline.applyRecords w).filter (·.severity = .warning) = w.secondOutcome.complaints := by
  have hnone (words : List String) (outcome : Outcome) :
      (outcome.records words).filter (·.severity = .warning) = [] := by
    rw [List.filter_eq_nil_iff]
    intro entry hm
    rw [Outcome.severity_of_mem_records hm]
    decide
  have hall : w.secondOutcome.complaints.filter (·.severity = .warning) =
      w.secondOutcome.complaints := by
    rw [List.filter_eq_self]
    intro entry hm
    rw [Outcome.severity_of_mem_complaints hm]
    rfl
  rw [applyRecords, hw, hd, hs, Option.elim, List.filter_cons_of_neg (by simp), List.filter_append,
    hnone, List.nil_append]
  refine (List.filter_cons_of_neg (by simp)).trans ?_
  rw [List.filter_append, hnone, hall, List.nil_append]

/-- Behind a schema change that succeeded, the schema file is refreshed, and the result is that of
the change, with a warning if the refresh failed. Only a refresh that is denied ends the run: the
database is changed, and its result is lost. -/
theorem apply_refreshes
    (hw : pipeline.atlas.applyWords? pipeline.settings.environment false true = some words)
    (hd : pipeline.settings.schemaDump = some true) (ho : w.outcome = .finished output errors 0) :
    ∃ records,
      pipeline.apply.run.run w =
        (if w.secondOutcome = .denied then .error (.file "bin/rails" .accessDenied)
          else .ok ⟨output.getD "" ++ errors.getD "", 0⟩,
        w.ran [⟨words, pipeline.atlas.directory.map (·.text)⟩,
          ⟨Atlas.dumpWords, pipeline.atlas.directory.map (·.text)⟩] records) ∧
      records.filter (·.severity = .warning) = w.secondOutcome.complaints ∧
      (w.secondOutcome.complaints = [] ↔
        w.secondOutcome.succeeds = true ∨ w.secondOutcome = .denied) := by
  have hs : w.outcome.succeeds = true := by
    rw [ho]
    rfl
  refine ⟨pipeline.applyRecords w, ?_, warnings_applyRecords hw hd hs,
    Outcome.complaints_eq_nil_iff⟩
  rw [run_apply, applied, applyCommands, hw, hd, ho]
  cases w.secondOutcome with
  | finished output errors status => rfl
  | missing => rfl
  | denied => rfl

end Pipeline

def missingRefresh : Workspace :=
  { emptyWorkspace with outcomes := [.finished (some "Applied") (some "") 0, .missing] }

theorem missingRefresh_apply : ∃ records,
    standardPipeline.apply.run.run missingRefresh = (.ok ⟨"Applied", 0⟩,
      missingRefresh.ran [⟨["atlas", "schema", "apply", "--env", "dev", "--auto-approve"], none⟩,
        ⟨["bin/rails", "db:schema:dump"], none⟩] records) ∧
    records.filter (·.severity = .warning) =
      [⟨.warning, "Rails schema dump failed with exit code 127:\nbin/rails: command not found"⟩] := by
  have hw : standardPipeline.atlas.applyWords? standardPipeline.settings.environment false true =
      some ["atlas", "schema", "apply", "--env", "dev", "--auto-approve"] := rfl
  have hd : standardPipeline.settings.schemaDump = some true := rfl
  have ho : missingRefresh.outcome = .finished (some "Applied") (some "") 0 := rfl
  obtain ⟨records, hrun, hwarned, -⟩ := Pipeline.apply_refreshes hw hd ho
  exact ⟨records, hrun, hwarned⟩

/-- A schema that can be applied, in a project whose command must not be run. -/
def deniedRefresh : Workspace :=
  { emptyWorkspace with outcomes := [.finished (some "Applied") (some "") 0, .denied] }

/-- The schema was applied, and the run fails all the same. -/
theorem deniedRefresh_apply :
    deniedRefresh.outcome.succeeds = true ∧
      (standardPipeline.apply.run.run deniedRefresh).1 =
        .error (.file "bin/rails" .accessDenied) := ⟨rfl, rfl⟩

end SchemaPlan
