import SchemaPlan.CommandLine.Run
import SchemaPlan.Proofs.Migration.Slug
import SchemaPlan.Proofs.Migration.Writing
import SchemaPlan.Proofs.Pipeline

namespace SchemaPlan

open Session

variable {pipeline : Pipeline} {name : Option String} {w w' : Workspace}

/-- How a generation may end: without a plan, with an empty one, or with an artifact that could or
could not be stored. Until then, only the log grows. -/
inductive Generated (pipeline : Pipeline) (name : Option String) (w w' : Workspace) :
    Except Failure Generation → Prop
  | unplanned {failure : Failure} (hp : pipeline.plan.run.run w = (.error failure, w')) :
    Generated pipeline name w w' (.error failure)
  | unchanged {u : Workspace} (hp : pipeline.plan.run.run w = (.ok [], u))
    (hs : w'.silent = u.silent) : Generated pipeline name w w' (.ok {})
  | unstored {failure : Failure} {u v : Workspace}
    (hp : pipeline.plan.run.run w = (.ok statements, u)) (hn : statements ≠ [])
    (ha : (pipeline.compiled statements name).value.artifact = some artifact)
    (hs : v.silent = u.silent)
    (hw : (pipeline.store.write artifact
      (pipeline.compiled statements name).value.flaw).run.run v = (.error failure, w')) :
    Generated pipeline name w w' (.error failure)
  | stored {u v : Workspace}
    (hp : pipeline.plan.run.run w = (.ok statements, u)) (hn : statements ≠ [])
    (ha : (pipeline.compiled statements name).value.artifact = some artifact)
    (hs : v.silent = u.silent)
    (hw : (pipeline.store.write artifact
      (pipeline.compiled statements name).value.flaw).run.run v = (.ok migration, w')) :
    Generated pipeline name w w'
      (.ok ⟨statements, (pipeline.compiled statements name).value, some migration⟩)

theorem generated_of_store {statements : List Statement} {u v : Workspace}
    (hp : pipeline.plan.run.run w = (.ok statements, u)) (hn : statements ≠ [])
    (hs : v.silent = u.silent)
    (h : (do
      let migration ← pipeline.store? (pipeline.compiled statements name).value
      return ⟨statements, (pipeline.compiled statements name).value, migration⟩ :
        Session Generation).run.run v = (result, w')) :
    Generated pipeline name w w' result := by
  obtain ⟨body, name', frameworkVersion, ha⟩ := pipeline.exists_artifact name hn
  rw [Pipeline.store?, ha, Option.mapM_some, bind_map_left] at h
  cases hw : (pipeline.store.write (.ofBody body name' frameworkVersion)
      (pipeline.compiled statements name).value.flaw).run.run v with
  | mk written v' =>
    cases written with
    | error failure =>
      rw [run_bind_error hw] at h
      cases h
      exact .unstored hp hn ha hs hw
    | ok migration =>
      rw [run_bind_ok hw] at h
      cases h
      exact .stored hp hn ha hs hw

theorem generated (h : (pipeline.generate name).run.run w = (result, w')) :
    Generated pipeline name w w' result := by
  rw [Pipeline.generate] at h
  cases hp : pipeline.plan.run.run w with
  | mk planned u =>
    cases planned with
    | error failure =>
      rw [run_bind_error hp] at h
      cases h
      exact .unplanned hp
    | ok statements =>
      rw [run_bind_ok hp] at h
      cases statements with
      | nil =>
        cases h
        exact .unchanged hp rfl
      | cons statement rest =>
        have hn : statement :: rest ≠ [] := List.cons_ne_nil _ _
        rw [if_neg (by simp), run_bind_ok (pipeline.run_compile ..)] at h
        dsimp only at h
        -- Whether statements are noted as raw or not, only the log is in between.
        split at h
        · rw [run_bind_ok (run_log ..)] at h
          refine generated_of_store hp hn ?_ h
          rfl
        · refine generated_of_store hp hn ?_ h
          rfl

theorem Pipeline.plainSlug {statements : List Statement} {artifact : Artifact}
    (hn : statements ≠ [])
    (ha : (pipeline.compiled statements name).value.artifact = some artifact) :
    '/' ∉ artifact.slug.toList := by
  obtain ⟨body, name', frameworkVersion, he⟩ := pipeline.exists_artifact name hn
  obtain rfl := Option.some.inj (he.symm.trans ha)
  exact Text.notMem_of_forall (fun _ => Slug.isSlugChar_of_mem_ofName) rfl

theorem Pipeline.lineFeed_mem {statements : List Statement} {artifact : Artifact}
    (hn : statements ≠ [])
    (ha : (pipeline.compiled statements name).value.artifact = some artifact) :
    '\n' ∈ artifact.content.toList := by
  obtain ⟨body, name', frameworkVersion, he⟩ := pipeline.exists_artifact name hn
  obtain rfl := Option.some.inj (he.symm.trans ha)
  simp [Artifact.ofBody, Artifact.source]

theorem Generated.concern {failure : Failure}
    (h : Generated pipeline name w w' (.error failure)) : failure.concern ≠ .settings := by
  cases h with
  | unplanned hp => exact (pipeline.consults_plan.plain w _ (by rw [hp])).concern
  | unstored hp hn ha hs hw =>
    cases MigrationStore.written (Pipeline.plainSlug hn ha) hw with
    | failed _ _ _ hk => exact hk.concern
    | broken => nofun

theorem Generated.cases_of_ok {generation : Generation}
    (h : Generated pipeline name w w' (.ok generation)) :
    generation = {} ∨ generation.hasChanges = true ∧
      ∃ migration, generation.migration = some migration ∧
        '\n' ∈ migration.artifact.content.toList := by
  cases h with
  | unchanged => exact .inl rfl
  | @stored statements artifact migration u v hp hn ha hs hw =>
    refine .inr ⟨by simpa [Generation.hasChanges] using hn, migration, rfl, ?_⟩
    cases MigrationStore.written (Pipeline.plainSlug hn ha) hw with
    | stored => exact Pipeline.lineFeed_mem hn ha

namespace CommandLine

def announced (statements : List Statement) : List String :=
  s!"Found {statements.length} changes:" ::
    statements.map fun statement => s!"  {statement.position}. {statement.text}"

def noted (compilation : Compilation) : List String :=
  if compilation.fallbackCount ≠ 0 then
    [s!"{compilation.fallbackCount} statement(s) not recognized; " ++
      "they will run as raw SQL via execute"]
  else []

def presented (migration : StoredMigration) : List String := [
  s!"Created migration: {migration.fileName}",
  s!"Location: {migration.path.text}",
  "\nMigration content:",
  migration.artifact.content]

def report (generation : Generation) : List String :=
  match generation.migration with
  | none => ["No schema changes detected"]
  | some migration =>
    announced generation.statements ++ noted generation.compilation ++ presented migration

theorem run_announce (statements : List Statement) (w : Workspace) :
    (announce statements).run.run w = (.ok (), w.printing (announced statements)) := by
  rw [announce, run_bind_ok (run_printLine ..), run_forM_printLine, Workspace.printing_printing]
  rfl

theorem run_present (migration : StoredMigration) (w : Workspace) :
    (present migration).run.run w = (.ok (), w.printing (presented migration)) := by
  rw [present, run_bind_ok (run_printLine ..), run_bind_ok (run_printLine ..),
    run_bind_ok (run_printLine ..), run_printLine, Workspace.printing_printing,
    Workspace.printing_printing, Workspace.printing_printing]
  rfl

theorem run_generate_planned {options : Options} {statements : List Statement}
    {artifact : Artifact} {u : Workspace}
    (hs : (start options).run.run w = (.ok pipeline, w))
    (hp : pipeline.plan.run.run w = (.ok statements, u)) (hn : statements ≠ [])
    (ha : (pipeline.compiled statements options.name).value.artifact = some artifact) :
    ∃ v, (generate options).run.run w =
        (pipeline.store.write artifact (pipeline.compiled statements options.name).value.flaw
          >>= present).run.run v ∧
      v.silent = u.silent ∧
      v.shown = u.shown ++ (announced statements ++
        noted (pipeline.compiled statements options.name).value).map (· ++ "\n") := by
  rw [generate, run_bind_ok hs, run_bind_ok hp, if_neg (by simpa using hn),
    run_bind_ok (run_announce ..), run_bind_ok (pipeline.run_compile ..),
    pipeline.compiled_default]
  dsimp only
  by_cases hf : (pipeline.compiled statements options.name).value.fallbackCount ≠ 0
  · rw [if_pos hf, run_bind_ok (run_printLine ..), ha, noted, if_pos hf]
    refine ⟨_, rfl, rfl, ?_⟩
    rw [Workspace.shown_printing, Workspace.shown_logged, Workspace.shown_printing,
      List.append_assoc, ← List.map_append]
  · rw [if_neg hf, ha, noted, if_neg hf, List.append_nil]
    refine ⟨_, rfl, rfl, ?_⟩
    rw [Workspace.shown_logged, Workspace.shown_printing]

theorem run_generate {options : Options} (hs : (start options).run.run w = (.ok pipeline, w))
    (hg : Generated pipeline options.name w w' result) :
    ∃ u, (generate options).run.run w = (result.map fun _ => (), u) ∧ u.silent = w'.silent ∧
      ∀ generation, result = .ok generation →
        u.shown = w.shown ++ (report generation).map (· ++ "\n") := by
  have hplan {planned : Except Failure (List Statement)} {u : Workspace}
      (hp : pipeline.plan.run.run w = (planned, u)) : u.shown = w.shown := by
    have hscene := pipeline.consults_plan.scene w
    rw [hp] at hscene
    exact congrArg (·.2.2) hscene
  cases hg with
  | unplanned hp =>
    rw [generate, run_bind_ok hs, run_bind_error hp]
    exact ⟨w', rfl, rfl, nofun⟩
  | @unchanged u hp hsilent =>
    rw [generate, run_bind_ok hs, run_bind_ok hp, if_pos (by rfl), run_printLine]
    refine ⟨_, rfl, hsilent.symm, ?_⟩
    rintro _ ⟨⟩
    rw [Workspace.shown_printing, hplan hp]
    rfl
  | @unstored statements artifact failure u v hp hn ha hsilent hw =>
    obtain ⟨v', hrun, hsilent', -⟩ := run_generate_planned hs hp hn ha
    obtain ⟨u', hu', hrest⟩ := MigrationStore.blind_write.alike (hsilent'.trans hsilent.symm) hw
    rw [hrun, run_bind_error hu']
    exact ⟨u', rfl, hrest, nofun⟩
  | @stored statements artifact migration u v hp hn ha hsilent hw =>
    obtain ⟨v', hrun, hsilent', hshown⟩ := run_generate_planned hs hp hn ha
    obtain ⟨u', hu', hrest⟩ := MigrationStore.blind_write.alike (hsilent'.trans hsilent.symm) hw
    rw [hrun, run_bind_ok hu', run_present]
    refine ⟨_, rfl, hrest, ?_⟩
    rintro _ ⟨⟩
    rw [Workspace.shown_printing, MigrationStore.shown_write hu', hshown, hplan hp,
      List.append_assoc, ← List.map_append]
    rfl

theorem ne_noChanges {c : Char} (h : line.toList.head? = some c) (hc : c ≠ 'N') :
    line ≠ "No schema changes detected" := by
  rintro rfl
  exact hc (Option.some.inj h).symm

theorem not_mem_report {generation : Generation} {migration : StoredMigration}
    (hm : generation.migration = some migration)
    (hc : '\n' ∈ migration.artifact.content.toList) :
    "No schema changes detected" ∉ report generation := by
  have hannounced : "No schema changes detected" ∉ announced generation.statements := by
    intro h
    rcases List.mem_cons.1 h with h | h
    · refine ne_noChanges ?_ (by decide : 'F' ≠ 'N') h.symm
      simp [toString]
    · obtain ⟨statement, -, h⟩ := List.mem_map.1 h
      refine ne_noChanges ?_ (by decide : ' ' ≠ 'N') h
      simp [toString]
  have hnoted : "No schema changes detected" ∉ noted generation.compilation := by
    intro h
    rw [noted] at h
    split at h
    · -- The line starts with a number, but it ends like no other.
      have hl := congrArg (·.toList.getLast?) (List.mem_singleton.1 h)
      simp [toString, List.getLast?_append] at hl
    · exact List.not_mem_nil h
  have hpresented : "No schema changes detected" ∉ presented migration := by
    intro h
    simp only [presented, List.mem_cons, List.not_mem_nil, or_false] at h
    rcases h with h | h | h | h
    · refine ne_noChanges ?_ (by decide : 'C' ≠ 'N') h.symm
      simp [toString]
    · refine ne_noChanges ?_ (by decide : 'L' ≠ 'N') h.symm
      simp [toString]
    · exact absurd h (by decide)
    · rw [← h] at hc
      exact absurd hc (by decide)
  rw [report, hm]
  simp [hannounced, hnoted, hpresented]

/-- What a failure comes to: an exit status, unless no report is prepared for it. -/
def exitStatus (failure : Failure) : Except Failure Nat :=
  match failure.concern with
  | .settings => .ok 2
  | .command _ => .ok 1
  | .migration => .ok 1
  | .unforeseen => .error failure

theorem exitStatus_of_concern {failure : Failure} (h : failure.concern ≠ .settings) :
    (failure.concern = .unforeseen → exitStatus failure = .error failure) ∧
      (failure.concern ≠ .unforeseen → exitStatus failure = .ok 1) := by
  rw [exitStatus]
  cases hc : failure.concern with
  | settings => exact absurd hc h
  | command result => exact ⟨nofun, fun _ => rfl⟩
  | migration => exact ⟨nofun, fun _ => rfl⟩
  | unforeseen => exact ⟨fun _ => rfl, fun hn => absurd rfl hn⟩

theorem run_concluding_ok {x : Session Unit} (label : String) (h : x.run.run w = (.ok (), w')) :
    (concluding label x).run.run w = (.ok 0, w') :=
  run_tryCatch_ok (run_bind_ok h)

theorem run_concluding_error {x : Session Unit} {failure : Failure} (label : String)
    (h : x.run.run w = (.error failure, w')) :
    ∃ u, (concluding label x).run.run w = (exitStatus failure, u) ∧ u.silent = w'.silent ∧
      u.shown = w'.shown := by
  have hreport (text : String) (w : Workspace) :
      (reportLine text).run.run w = (.ok (), w.adding [.reported (text ++ "\n")]) := rfl
  have hshown (text : String) (w : Workspace) :
      (w.adding [.reported text]).shown = w.shown := by
    rw [Workspace.shown_adding]
    exact List.append_nil _
  rw [concluding, run_tryCatch_error (run_bind_error h), exitStatus]
  cases failure.concern with
  | settings =>
    dsimp only
    rw [run_bind_ok (hreport ..)]
    exact ⟨_, rfl, rfl, hshown ..⟩
  | command result =>
    dsimp only
    rw [run_bind_ok (hreport ..)]
    split
    · rw [run_bind_ok (hreport ..)]
      exact ⟨_, rfl, rfl, (hshown ..).trans (hshown ..)⟩
    · exact ⟨_, rfl, rfl, hshown ..⟩
  | migration =>
    dsimp only
    rw [run_bind_ok (hreport ..)]
    exact ⟨_, rfl, rfl, hshown ..⟩
  | unforeseen => exact ⟨w', rfl, rfl, rfl⟩

theorem start_unchanged {options : Options} (h : (start options).run.run w = (result, w')) :
    w' = w := by
  have hk : Keeps id (start options) :=
    (Settings.keeps_checked _).bind fun settings => Pipeline.keeps_start settings
  have hw := hk w
  rwa [h] at hw

/-- How a generating command line may end: before there is a pipeline, or as the call does that
generates with it. -/
inductive Performed (options : Options) (w w' : Workspace) : Except Failure Nat → Prop
  | unstarted {failure : Failure} (hs : (start options).run.run w = (.error failure, w))
    (hw : w'.silent = w.silent) : Performed options w w' (exitStatus failure)
  | failed {pipeline : Pipeline} {failure : Failure} {u : Workspace}
    (hs : (start options).run.run w = (.ok pipeline, w))
    (hc : (pipeline.generate options.name).run.run w = (.error failure, u))
    (hw : w'.silent = u.silent) : Performed options w w' (exitStatus failure)
  | done {pipeline : Pipeline} {generation : Generation} {u : Workspace}
    (hs : (start options).run.run w = (.ok pipeline, w))
    (hc : (pipeline.generate options.name).run.run w = (.ok generation, u))
    (hw : w'.silent = u.silent)
    (hp : w'.shown = w.shown ++ (report generation).map (· ++ "\n")) :
    Performed options w w' (.ok 0)

theorem performed {options : Options}
    (h : (perform options .generate).run.run w = (status, w')) : Performed options w w' status := by
  rw [perform] at h
  cases hs : (start options).run.run w with
  | mk started u =>
    obtain rfl := start_unchanged hs
    cases started with
    | error failure =>
      have hstart : (generate options).run.run u = (.error failure, u) := run_bind_error hs
      obtain ⟨v, hrun, hsilent, -⟩ := run_concluding_error "Generation" hstart
      rw [hrun] at h
      cases h
      exact .unstarted hs hsilent
    | ok pipeline =>
      cases hc : (pipeline.generate options.name).run.run u with
      | mk result u' =>
        obtain ⟨v, hrun, hsilent, hshown⟩ := run_generate hs (generated hc)
        cases result with
        | error failure =>
          obtain ⟨v', hrun', hsilent', -⟩ := run_concluding_error "Generation" hrun
          rw [hrun'] at h
          cases h
          exact .failed hs hc (hsilent'.trans hsilent)
        | ok generation =>
          rw [run_concluding_ok "Generation" hrun] at h
          cases h
          exact .done hs hc hsilent (hshown generation rfl)

/-- From accepted settings, the command line and a call run the same commands and leave the same
files. If the call returns, the command line exits with success and prints what was generated, and
that there are no changes exactly if there are none; if it fails, so does the command line, with an
exit status of its own unless no report is prepared for the failure. -/
theorem perform_generate {options : Options} {settings : Settings}
    (hv : (Settings.checked options.overrides).run.run w = (.ok settings, w'))
    (hl : (perform options .generate).run.run w = (status, w₁))
    (hc : (do (← Pipeline.start settings).generate options.name : Session Generation).run.run w =
      (result, w₂)) :
    w₁.silent = w₂.silent ∧
    (∀ generation, result = .ok generation → status = .ok 0 ∧
      w₁.shown = w.shown ++ (report generation).map (· ++ "\n") ∧
      (generation.hasChanges = false ↔ "No schema changes detected" ∈ report generation) ∧
      (generation.hasChanges = false ↔ generation.migration = none)) ∧
    (∀ failure, result = .error failure →
      (failure.concern = .unforeseen → status = .error failure) ∧
      (failure.concern ≠ .unforeseen → status = .ok 1)) := by
  have hw := Settings.keeps_checked options.overrides w
  rw [hv] at hw
  obtain rfl : w' = w := hw
  cases performed hl with
  | unstarted hs hsilent =>
    rw [start, run_bind_ok hv] at hs
    rw [run_bind_error hs] at hc
    cases hc
    refine ⟨hsilent, nofun, ?_⟩
    rintro _ ⟨⟩
    exact exitStatus_of_concern (Pipeline.plain_start settings _ _ (by rw [hs])).concern
  | failed hs hc' hsilent =>
    rw [start, run_bind_ok hv] at hs
    rw [run_bind_ok hs, hc'] at hc
    cases hc
    refine ⟨hsilent, nofun, ?_⟩
    rintro _ ⟨⟩
    exact exitStatus_of_concern (generated hc').concern
  | @done pipeline generation u hs hc' hsilent hshown =>
    rw [start, run_bind_ok hv] at hs
    rw [run_bind_ok hs, hc'] at hc
    cases hc
    refine ⟨hsilent, ?_, nofun⟩
    rintro _ ⟨⟩
    refine ⟨rfl, hshown, ?_⟩
    rcases (generated hc').cases_of_ok with rfl | ⟨hchanges, migration, hm, hlf⟩
    · decide
    · rw [hchanges, hm]
      simp [not_mem_report hm hlf]

end CommandLine

/-- A plan that drops a table, at noon, with nothing stored yet. -/
def droppingWorkspace : Workspace :=
  { emptyWorkspace with outcomes := [.finished (some "-> DROP TABLE users") none 0] }

def droppingOptions : CommandLine.Options := { name := some "Drop users" }

theorem droppingWorkspace_generate : ∃ (status : Except Failure Nat) (w₁ w₂ : Workspace)
    (generation : Generation),
    (CommandLine.perform droppingOptions .generate).run.run droppingWorkspace = (status, w₁) ∧
    (do (← Pipeline.start {}).generate droppingOptions.name : Session Generation).run.run
      droppingWorkspace = (.ok generation, w₂) ∧
    status = .ok 0 ∧ w₁.silent = w₂.silent ∧ generation.hasChanges = true ∧
    generation.migration.map (·.path.text) = some "db/migrate/20240229120000_drop_users.rb" := by
  have hv : (Settings.checked droppingOptions.overrides).run.run droppingWorkspace =
      (.ok {}, droppingWorkspace) := Settings.checked_eq_ok rfl (by decide +kernel)
  have hg : ((do (← Pipeline.start {}).generate droppingOptions.name :
      Session Generation).run.run droppingWorkspace).1.toOption.map (fun generation =>
        (generation.hasChanges, generation.migration.map (·.path.text))) =
      some (true, some "db/migrate/20240229120000_drop_users.rb") := by decide +kernel
  cases hl : (CommandLine.perform droppingOptions .generate).run.run droppingWorkspace with
  | mk status w₁ =>
    cases hc : (do (← Pipeline.start {}).generate droppingOptions.name :
        Session Generation).run.run droppingWorkspace with
    | mk result w₂ =>
      rw [hc] at hg
      cases result with
      | error failure => cases hg
      | ok generation =>
        obtain ⟨hsilent, hok, -⟩ := CommandLine.perform_generate hv hl hc
        obtain ⟨hstatus, -⟩ := hok generation rfl
        obtain ⟨hchanges, hpath⟩ := Prod.mk.inj (Option.some.inj hg)
        exact ⟨status, w₁, w₂, generation, rfl, rfl, hstatus, hsilent, hchanges, hpath⟩

end SchemaPlan
