import SchemaPlan.Pipeline
import SchemaPlan.Proofs.Atlas
import SchemaPlan.Proofs.Compilation

namespace SchemaPlan

open Session

theorem TypeMapping.keeps_load (path : Path) (base : TypeMapping) : Keeps id (load path base) := by
  refine .get_bind fun w => ?_
  split
  · rfl
  · rfl
  · split <;> rfl

theorem Settings.keeps_checked (explicit : Overrides) : Keeps id (checked explicit) := by
  refine .get_bind fun w => ?_
  have hcheck (settings : Settings) : Keeps id settings.check := by
    refine .get_bind fun w => ?_
    split <;> rfl
  exact (hcheck _).bind (fun _ => .pure _) w

theorem Settings.checked_eq_ok {explicit : Overrides} {settings : Settings}
    (hs : resolve w.assignments explicit = settings)
    (hp : settings.problems w.tree w.directory = .ok []) :
    (checked explicit).run.run w = (.ok settings, w) := by
  have hcheck : settings.check.run.run w = (.ok (), w) := by
    rw [check, run_get_bind, hp]
    rfl
  rw [checked, run_get_bind]
  dsimp only
  rw [hs, run_bind_ok hcheck]
  rfl

theorem Settings.eq_resolve_of_checked {explicit : Overrides} {settings : Settings}
    (h : (checked explicit).run.run w = (.ok settings, w')) :
    settings = resolve w.assignments explicit := by
  rw [checked, run_get_bind] at h
  obtain ⟨_, u, -, h⟩ := ok_of_bind h
  cases h
  rfl

theorem Settings.encodable_checked {explicit : Overrides} {failure : Failure}
    (h : ((checked explicit).run.run w).1 = .error failure) : ∀ flaw, failure ≠ .notEncodable flaw := by
  have hcheck (settings : Settings) (e : Failure) (he : (settings.check.run.run w).1 = .error e) :
      ∀ flaw, e ≠ .notEncodable flaw := by
    rw [check, run_get_bind] at he
    split at he
    · cases he
      nofun
    · cases he
    · cases he
      nofun
  rw [checked, run_get_bind] at h
  dsimp only at h
  cases hc : (resolve w.assignments explicit).check.run.run w with
  | mk result u =>
    cases result with
    | error e =>
      rw [run_bind_error hc] at h
      cases h
      exact hcheck _ _ (by rw [hc])
    | ok _ =>
      rw [run_bind_ok hc] at h
      cases h

theorem Failure.concern_typeMap (path : String) (fault : TypeMapping.Fault) :
    (typeMap path fault).concern ≠ .settings := by
  change typeMapConcern fault ≠ .settings
  unfold typeMapConcern
  split <;> nofun

theorem TypeMapping.plain_load (path : Path) (base : TypeMapping) :
    FailsPlainly (load path base) := by
  intro w e he
  simp only [load, run_get_bind] at he
  split at he
  · cases he
    exact ⟨nofun, nofun⟩
  · cases he
    exact ⟨nofun, nofun⟩
  · split at he
    · cases he
    · cases he
      exact ⟨Failure.concern_typeMap _ _, nofun⟩

theorem Atlas.applyWords?_eq {atlas : Atlas} {command : String}
    (hc : atlas.command = some command) (environment : String) (dryRun autoApprove : Bool) :
    atlas.applyWords? (some environment) dryRun autoApprove =
      some ([command, "schema", "apply", "--env", environment] ++
        (if dryRun then ["--dry-run"] else []) ++
        (if autoApprove then ["--auto-approve"] else [])) := by
  rw [applyWords?, hc]
  rfl

namespace Pipeline

theorem keeps_settingOr (setting : Option α) : Keeps id (settingOr setting) := by
  cases setting with
  | none => exact .throw _
  | some value => exact .pure _

theorem plain_settingOr (setting : Option α) :
    FailsPlainly (settingOr setting) := by
  cases setting with
  | none => exact .throw ⟨nofun, nofun⟩
  | some value => exact .pure _

theorem keeps_start (settings : Settings) : Keeps id (start settings) := by
  refine (keeps_settingOr _).bind fun root => ?_
  dsimp only
  split
  · exact (TypeMapping.keeps_load _ _).bind fun _ => (keeps_settingOr _).bind fun _ => .pure _
  · exact (Keeps.pure _).bind fun _ => (keeps_settingOr _).bind fun _ => .pure _

theorem plain_start (settings : Settings) :
    FailsPlainly (start settings) := by
  refine (plain_settingOr _).bind fun root => ?_
  dsimp only
  split
  · exact (TypeMapping.plain_load _ _).bind fun _ => (plain_settingOr _).bind fun _ => .pure _
  · exact (FailsPlainly.pure _).bind fun _ => (plain_settingOr _).bind fun _ => .pure _

theorem settingOr_eq_ok {setting : Option α} (h : (settingOr setting).run.run w = (.ok a, w')) :
    setting = some a := by
  cases setting with
  | none => cases h
  | some value =>
    cases h
    rfl

theorem start_eq_ok {settings : Settings} {pipeline : Pipeline}
    (h : (start settings).run.run w = (.ok pipeline, w')) :
    pipeline.settings = settings ∧
      pipeline.atlas = ⟨settings.atlasCommand, settings.rootPath?⟩ ∧
      settings.migrationsPath? = some pipeline.store.directory := by
  obtain ⟨root, u, hroot, h⟩ := ok_of_bind h
  rw [settingOr_eq_ok hroot]
  dsimp only at h
  split at h
  all_goals
    obtain ⟨mapping, v, -, h⟩ := ok_of_bind h
    obtain ⟨directory, v', hd, h⟩ := ok_of_bind h
    cases h
    exact ⟨rfl, rfl, settingOr_eq_ok hd⟩

def dryRunCommands (pipeline : Pipeline) : Option (List Invocation) :=
  (pipeline.atlas.applyWords? pipeline.settings.environment true false).map fun words =>
    [⟨words, pipeline.atlas.directory.map (·.text)⟩]

def dryRunAnswer (pipeline : Pipeline) (outcome : Outcome) : Except Failure CommandResult :=
  outcome.answer (pipeline.atlas.applyWords? pipeline.settings.environment true false)

def dryRunRecords (pipeline : Pipeline) (outcome : Outcome) : List LogRecord :=
  (pipeline.atlas.applyWords? pipeline.settings.environment true false).elim []
    fun words => outcome.records words

/-- What a dry run printed, or why it is of no use. -/
def printed (pipeline : Pipeline) (outcome : Outcome) : Except Failure String :=
  (pipeline.dryRunAnswer outcome).bind fun result =>
    if result.ok then .ok result.output
    else .error (.planUnavailable pipeline.environment result)

theorem printed_eq_ok_iff {pipeline : Pipeline} {outcome : Outcome} :
    pipeline.printed outcome = .ok output ↔
      ∃ result, pipeline.dryRunAnswer outcome = .ok result ∧ result.ok = true ∧
        result.output = output := by
  rw [printed]
  cases pipeline.dryRunAnswer outcome with
  | error failure =>
    constructor
    · intro h
      cases h
    · rintro ⟨result, ⟨⟩, -⟩
  | ok result =>
    rw [Except.bind]
    constructor
    · intro h
      split at h
      · next hk =>
        cases h
        exact ⟨result, rfl, hk, rfl⟩
      · cases h
    · rintro ⟨_, ⟨⟩, hk, rfl⟩
      exact if_pos hk

/-- What is logged when a plan is read; where nothing was printed, nothing is read. -/
def readingRecords : Except Failure String → List LogRecord
  | .ok output => (Plan.statements output).records ++
      [⟨.info, s!"Found {(Plan.statements output).value.length} change(s)"⟩]
  | .error _ => []

theorem run_dryRun_answer (pipeline : Pipeline) (w : Workspace) :
    (pipeline.atlas.dryRun pipeline.settings.environment).run.run w =
      (pipeline.dryRunAnswer w.outcome,
        w.ran (pipeline.dryRunCommands.getD []) (pipeline.dryRunRecords w.outcome)) := by
  rw [Atlas.dryRun, Atlas.run_runWords, dryRunAnswer, dryRunCommands, dryRunRecords]
  cases pipeline.atlas.applyWords? pipeline.settings.environment true false with
  | none => rfl
  | some words => rfl

theorem run_preview_printed (pipeline : Pipeline) (w : Workspace) :
    pipeline.preview.run.run w = (pipeline.printed w.outcome,
      w.ran (pipeline.dryRunCommands.getD []) (pipeline.dryRunRecords w.outcome)) := by
  have hrun := pipeline.run_dryRun_answer w
  rw [preview, printed]
  cases ha : pipeline.dryRunAnswer w.outcome with
  | error failure =>
    rw [ha] at hrun
    exact run_bind_error hrun
  | ok result =>
    rw [ha] at hrun
    rw [run_bind_ok hrun, Except.bind]
    split <;> rfl

theorem run_plan_printed (pipeline : Pipeline) (w : Workspace) :
    pipeline.plan.run.run w =
      ((pipeline.printed w.outcome).map fun output => (Plan.statements output).value,
        w.ran (pipeline.dryRunCommands.getD [])
          (⟨.info, s!"Generating migration plan for env '{pipeline.environment}'..."⟩ ::
            (pipeline.dryRunRecords w.outcome ++
              readingRecords (pipeline.printed w.outcome)))) := by
  have hrun (records : List LogRecord) := pipeline.run_dryRun_answer (w.ran [] records)
  simp only [Workspace.outcome_ran_nil, Workspace.ran_ran, List.nil_append] at hrun
  rw [plan, run_bind_ok (run_log ..), Workspace.adding_logged, printed]
  cases ha : pipeline.dryRunAnswer w.outcome with
  | error failure =>
    rw [ha] at hrun
    rw [run_bind_error (hrun _), Except.bind, readingRecords, List.append_nil]
    rfl
  | ok result =>
    rw [ha] at hrun
    rw [run_bind_ok (hrun _), Plan.ofDryRun, Except.bind]
    split
    · refine (run_bind_ok (run_ofLogged _ _)).trans ((run_bind_ok (run_log ..)).trans ?_)
      rw [Workspace.adding_logged, Workspace.ran_ran, Workspace.ran_ran, List.append_nil,
        List.append_nil, List.append_assoc]
      rfl
    · rw [readingRecords, List.append_nil]
      rfl

theorem run_dryRun {pipeline : Pipeline} {command environment : String}
    (hc : pipeline.atlas.command = some command)
    (he : pipeline.settings.environment = some environment)
    (ho : w.outcome = .finished output errors status) :
    ((pipeline.atlas.dryRun pipeline.settings.environment).run.run w).1 =
      .ok ⟨output.getD "" ++ errors.getD "", status⟩ := by
  rw [run_dryRun_answer, dryRunAnswer, he, Atlas.applyWords?_eq hc, ho]
  rfl

theorem run_plan {pipeline : Pipeline} {result : CommandResult}
    (hd : ((pipeline.atlas.dryRun pipeline.settings.environment).run.run w).1 = .ok result)
    (hk : result.ok = true) :
    ∃ w', pipeline.plan.run.run w = (.ok (Plan.statements result.output).value, w') := by
  rw [run_dryRun_answer] at hd
  rw [run_plan_printed, printed_eq_ok_iff.2 ⟨result, hd, hk, rfl⟩]
  exact ⟨_, rfl⟩

theorem plan_eq_ok {pipeline : Pipeline} {statements : List Statement}
    (h : pipeline.plan.run.run w = (.ok statements, w')) : statements = w.outcome.statements := by
  rw [run_plan_printed] at h
  cases hp : pipeline.printed w.outcome with
  | error failure =>
    rw [hp] at h
    cases h
  | ok output =>
    rw [hp] at h
    cases h
    obtain ⟨result, ha, hk, rfl⟩ := printed_eq_ok_iff.1 hp
    obtain ⟨words, -, hr⟩ := Outcome.answer_eq_ok_iff.1 ha
    exact (Outcome.statements_of_ok hr hk).symm

theorem exists_plan {pipeline : Pipeline} {command environment : String}
    (hc : pipeline.atlas.command = some command)
    (he : pipeline.settings.environment = some environment) (hn : w.outcome.statements ≠ []) :
    ∃ w', pipeline.plan.run.run w = (.ok w.outcome.statements, w') := by
  obtain ⟨output, errors, ho⟩ := Outcome.exists_of_statements hn
  obtain ⟨w', hrun⟩ := run_plan (run_dryRun hc he ho) rfl
  rw [plan_eq_ok hrun] at hrun
  exact ⟨w', hrun⟩

theorem plain_of_printed {pipeline : Pipeline} {outcome : Outcome} {failure : Failure}
    (h : pipeline.printed outcome = .error failure) : failure.Plain := by
  rw [printed] at h
  cases ha : pipeline.dryRunAnswer outcome with
  | error failure' =>
    rw [ha] at h
    cases h
    exact Atlas.plain_of_answer ha
  | ok result =>
    rw [ha, Except.bind] at h
    split at h
    · cases h
    · cases h
      exact ⟨nofun, nofun⟩

theorem consults_preview (pipeline : Pipeline) :
    Consults (fun _ => pipeline.dryRunCommands) pipeline.preview :=
  .of_run pipeline.run_preview_printed fun _ _ h => plain_of_printed h

theorem consults_plan (pipeline : Pipeline) :
    Consults (fun _ => pipeline.dryRunCommands) pipeline.plan := by
  refine .of_run pipeline.run_plan_printed fun w failure h => ?_
  cases hp : pipeline.printed w.outcome with
  | error failure' =>
    rw [hp] at h
    cases h
    exact plain_of_printed hp
  | ok output =>
    rw [hp] at h
    cases h

def applyCommands (pipeline : Pipeline) (outcome : Outcome) : Option (List Invocation) :=
  (pipeline.atlas.applyWords? pipeline.settings.environment false true).map fun words =>
    ⟨words, pipeline.atlas.directory.map (·.text)⟩ ::
      if outcome.succeeds && pipeline.settings.schemaDump = some true then
        [⟨Atlas.dumpWords, pipeline.atlas.directory.map (·.text)⟩]
      else []

/-- What comes of applying the schema: it may fail behind a change that succeeded. -/
def applied (pipeline : Pipeline) (w : Workspace) : Except Failure CommandResult :=
  (w.outcome.answer
    (pipeline.atlas.applyWords? pipeline.settings.environment false true)).bind fun result =>
      if !result.ok then .error (.applyFailed pipeline.environment result)
      else if pipeline.settings.schemaDump = some true then
        (w.secondOutcome.result Atlas.dumpWords).map fun _ => result
      else .ok result

def applyRecords (pipeline : Pipeline) (w : Workspace) : List LogRecord :=
  ⟨.info, s!"Applying schema to env '{pipeline.environment}'..."⟩ ::
    (pipeline.atlas.applyWords? pipeline.settings.environment false true).elim [] fun words =>
      w.outcome.records words ++
        if w.outcome.succeeds && pipeline.settings.schemaDump = some true then
          ⟨.info, "Updating Rails schema.rb..."⟩ ::
            (w.secondOutcome.records Atlas.dumpWords ++ w.secondOutcome.complaints)
        else []

theorem run_refreshing (pipeline : Pipeline) (result : CommandResult) (w : Workspace) :
    (do
      Session.log .info "Updating Rails schema.rb..."
      let _ ← pipeline.atlas.dumpSchema
      return result : Session CommandResult).run.run w =
      ((w.outcome.result Atlas.dumpWords).map fun _ => result,
        w.ran [⟨Atlas.dumpWords, pipeline.atlas.directory.map (·.text)⟩]
          (⟨.info, "Updating Rails schema.rb..."⟩ ::
            (w.outcome.records Atlas.dumpWords ++ w.outcome.complaints))) := by
  have hdump (records : List LogRecord) := pipeline.atlas.run_dumpSchema (w.ran [] records)
  simp only [Workspace.outcome_ran_nil, Workspace.ran_ran, List.nil_append] at hdump
  rw [run_bind_ok (run_log ..), Workspace.adding_logged]
  cases hr : w.outcome.result Atlas.dumpWords with
  | error failure =>
    rw [hr] at hdump
    exact run_bind_error (hdump _)
  | ok result' =>
    rw [hr] at hdump
    exact run_bind_ok (hdump _)

theorem run_apply (pipeline : Pipeline) (w : Workspace) :
    pipeline.apply.run.run w = (pipeline.applied w,
      w.ran ((pipeline.applyCommands w.outcome).getD []) (pipeline.applyRecords w)) := by
  rw [apply, run_bind_ok (run_log ..), Workspace.adding_logged, Atlas.apply, applied, applyCommands,
    applyRecords]
  cases pipeline.atlas.applyWords? pipeline.settings.environment false true with
  | none => exact run_bind_error rfl
  | some words =>
    have hfirst (records : List LogRecord) := pipeline.atlas.run_run words (w.ran [] records)
    simp only [Workspace.outcome_ran_nil, Workspace.ran_ran, List.nil_append] at hfirst
    rw [Atlas.runWords, Outcome.answer, Option.elim, Option.elim, Option.map_some, Option.getD_some]
    cases hr : w.outcome.result words with
    | error failure =>
      rw [hr] at hfirst
      rw [run_bind_error (hfirst _), Outcome.succeeds_of_error hr]
      simp [Except.bind]
    | ok result =>
      rw [hr] at hfirst
      rw [run_bind_ok (hfirst _), ← Outcome.succeeds_of_ok hr, Except.bind]
      cases hk : result.ok with
      | false =>
        simp only [Bool.false_and, Bool.false_eq_true, if_false, List.append_nil]
        rfl
      | true =>
        by_cases hd : pipeline.settings.schemaDump = some true
        · simp only [hd]
          refine (pipeline.run_refreshing result _).trans ?_
          rw [(w.issued_ran ..).outcome, Workspace.ran_ran]
          simp
        · simp only [hd, decide_false, Bool.and_false, Bool.false_eq_true, if_false,
            List.append_nil]
          rfl

theorem consults_apply (pipeline : Pipeline) :
    Consults pipeline.applyCommands pipeline.apply := by
  refine .of_run pipeline.run_apply fun w failure h => ?_
  rw [applied] at h
  cases ha : w.outcome.answer
      (pipeline.atlas.applyWords? pipeline.settings.environment false true) with
  | error failure' =>
    rw [ha] at h
    cases h
    exact Atlas.plain_of_answer ha
  | ok result =>
    rw [ha, Except.bind] at h
    split at h
    · cases h
      exact ⟨nofun, nofun⟩
    · split at h
      · cases hr : w.secondOutcome.result Atlas.dumpWords with
        | error failure' =>
          rw [hr] at h
          cases h
          exact Atlas.plain_of_result hr
        | ok result' =>
          rw [hr] at h
          cases h
      · cases h

def compiled (pipeline : Pipeline) (statements : List Statement) (name : Option String) :
    Logged Compilation :=
  SchemaPlan.compiled pipeline.mapping (Settings.shown pipeline.settings.frameworkVersion)
    statements name

theorem run_compile (pipeline : Pipeline) (statements : List Statement) (name : Option String)
    (w : Workspace) :
    (pipeline.compile statements name).run.run w =
      (.ok (pipeline.compiled statements name).value,
        w.adding ((pipeline.compiled statements name).records.map .logged)) :=
  run_ofRendering (SchemaPlan.run_compile ..) w

theorem quiet_compile (pipeline : Pipeline) (statements : List Statement) (name : Option String) :
    Quiet (pipeline.compile statements name) := by
  have hrun (w : Workspace) : (pipeline.compile statements name).run.run w =
      (.ok (pipeline.compiled statements name).value,
        w.ran [] (pipeline.compiled statements name).records) := by
    rw [run_compile, Workspace.adding_logged]
  exact .of_run hrun fun _ _ h => nomatch h

theorem compiled_default (pipeline : Pipeline) (statements : List Statement)
    (name : Option String) :
    pipeline.compiled statements (some (name.getD Artifact.defaultName)) =
      pipeline.compiled statements name := by
  have hn : Artifact.nameOrDefault (some (name.getD Artifact.defaultName)) =
      Artifact.nameOrDefault name := by
    cases name with
    | none => rfl
    | some name => rfl
  rw [compiled, compiled, SchemaPlan.compiled, SchemaPlan.compiled, hn]

theorem artifact_ofBody (pipeline : Pipeline) {statements : List Statement} (name : Option String)
    (hn : statements ≠ []) : ∃ body name',
      (pipeline.compiled statements name).value.artifact =
        some (.ofBody body name' (Settings.shown pipeline.settings.frameworkVersion)) := by
  refine ⟨_, _, (Artifact.value_assemble ..).trans (if_neg ?_)⟩
  simpa using hn

theorem exists_artifact (pipeline : Pipeline) {statements : List Statement} (name : Option String)
    (hn : statements ≠ []) : ∃ body name' frameworkVersion,
      (pipeline.compiled statements name).value.artifact =
        some (.ofBody body name' frameworkVersion) := by
  obtain ⟨body, name', ha⟩ := pipeline.artifact_ofBody name hn
  exact ⟨body, name', _, ha⟩

end Pipeline

end SchemaPlan
