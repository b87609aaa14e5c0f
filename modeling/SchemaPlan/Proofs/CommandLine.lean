import SchemaPlan.Proofs.Generation

namespace SchemaPlan

open Session

variable {pipeline : Pipeline} {name : Option String} {w w' : Workspace}

theorem Pipeline.scene_plan {planned : Except Failure (List Statement)}
    (h : pipeline.plan.run.run w = (planned, w')) : w'.tree = w.tree ∧ w'.directory = w.directory := by
  have hscene := pipeline.consults_plan.scene w
  rw [h] at hscene
  exact ⟨congrArg (·.1) hscene, congrArg (·.2.1) hscene⟩

/-- What a generation leaves in the tree. -/
inductive Filed (pipeline : Pipeline) (w w' : Workspace) : Except Failure Generation → Prop
  | nothing (hs : w.outcome.statements = []) (ht : w'.tree = w.tree) : Filed pipeline w w' (.ok {})
  | unplanned {failure : Failure} (hk : failure.Plain) (ht : w'.tree = w.tree) :
    Filed pipeline w w' (.error failure)
  | unstored {failure : Failure} (hs : w.outcome.statements ≠ []) (hk : failure.Plain)
    (ha : FileTree.AddsDirectories names w.tree w'.tree) : Filed pipeline w w' (.error failure)
  | broken (hs : w.outcome.statements ≠ []) (hw : w.tree.Within w'.tree)
    (ha : FileTree.AddsOneFile w.directory pipeline.store.directory [] w.tree w'.tree) :
    Filed pipeline w w' (.error (.notEncodable flaw))
  | stored {generation : Generation} (hs : w.outcome.statements ≠ [])
    (hm : generation.migration = some migration) (hw : w.tree.Within w'.tree)
    (ha : FileTree.AddsOneFile w.directory pipeline.store.directory
      migration.artifact.content.toUTF8.toList w.tree w'.tree) :
    Filed pipeline w w' (.ok generation)

theorem scene_before_store {planned : Except Failure (List Statement)} {u v : Workspace}
    (hp : pipeline.plan.run.run w = (planned, u)) (hs : v.silent = u.silent) :
    v.tree = w.tree ∧ v.directory = w.directory := by
  obtain ⟨ht, hd⟩ := Pipeline.scene_plan hp
  obtain ⟨htv, hdv, -⟩ := Workspace.eq_of_silent hs
  exact ⟨htv.trans ht, hdv.trans hd⟩

theorem Generated.filed (h : Generated pipeline name w w' result) :
    Filed pipeline w w' result := by
  cases h with
  | unplanned hp =>
    exact .unplanned (pipeline.consults_plan.plain w _ (by rw [hp])) (Pipeline.scene_plan hp).1
  | unchanged hp hs =>
    obtain ⟨ht, -⟩ := Workspace.eq_of_silent hs
    exact .nothing (Pipeline.plan_eq_ok hp).symm (ht.trans (Pipeline.scene_plan hp).1)
  | @unstored statements artifact failure u v hp hn ha hs hw =>
    obtain ⟨ht, hd⟩ := scene_before_store hp hs
    have hplanned : w.outcome.statements ≠ [] := Pipeline.plan_eq_ok hp ▸ hn
    have hwritten := MigrationStore.written (Pipeline.plainSlug hn ha) hw
    have hwithin := ht ▸ hwritten.within
    cases hwritten with
    | failed hmade _ htree hk =>
      have hadded := hmade.added
      rw [ht, ← htree] at hadded
      exact .unstored hplanned hk hadded
    | broken hmade _ hl _ _ _ _ hadds =>
      have hone := hmade.added.addsOneFile hl hadds
      rw [ht, hd] at hone
      exact .broken hplanned hwithin hone
  | @stored statements artifact migration u v hp hn ha hs hw =>
    obtain ⟨ht, hd⟩ := scene_before_store hp hs
    have hplanned : w.outcome.statements ≠ [] := Pipeline.plan_eq_ok hp ▸ hn
    have hwritten := MigrationStore.written (Pipeline.plainSlug hn ha) hw
    have hwithin := ht ▸ hwritten.within
    cases hwritten with
    | stored hmade _ hl _ _ _ _ hadds =>
      have hone := hmade.added.addsOneFile hl hadds
      rw [ht, hd] at hone
      exact .stored hplanned rfl hwithin hone

section ExitStatus

open CommandLine

variable {failure : Failure}

theorem CommandLine.exitStatus_ne_zero (failure : Failure) : exitStatus failure ≠ .ok 0 := by
  intro h
  rw [exitStatus] at h
  cases hc : failure.concern <;> rw [hc] at h <;> cases h

theorem CommandLine.eq_of_exitStatus_error (h : exitStatus failure = .error e) : failure = e := by
  rw [exitStatus] at h
  cases hc : failure.concern with
  | unforeseen =>
    rw [hc] at h
    cases h
    rfl
  | _ =>
    rw [hc] at h
    cases h

theorem Failure.Plain.exitStatus_ne_two (h : failure.Plain) : exitStatus failure ≠ .ok 2 := by
  intro he
  rw [exitStatus] at he
  cases hc : failure.concern with
  | settings => exact h.concern hc
  | _ =>
    rw [hc] at he
    cases he

theorem Failure.Plain.exitStatus_ne_notEncodable (h : failure.Plain) (flaw : Flaw) :
    exitStatus failure ≠ .error (.notEncodable flaw) :=
  fun he => h.encodable flaw (eq_of_exitStatus_error he)

end ExitStatus

namespace CommandLine

theorem encodable_start {options : Options} {failure : Failure}
    (h : (start options).run.run w = (.error failure, w')) :
    ∀ flaw, failure ≠ .notEncodable flaw := by
  cases hc : (Settings.checked options.overrides).run.run w with
  | mk result u =>
    cases result with
    | error e =>
      rw [start, run_bind_error hc] at h
      cases h
      exact Settings.encodable_checked (by rw [hc])
    | ok settings =>
      rw [start, run_bind_ok hc] at h
      exact (Pipeline.plain_start settings u _ (by rw [h])).encodable

theorem directory_of_start {options : Options}
    (h : (start options).run.run w = (.ok pipeline, w')) :
    (Settings.resolve w.assignments options.overrides).migrationsPath? =
      some pipeline.store.directory := by
  obtain ⟨settings, u, hc, h⟩ := ok_of_bind h
  rw [← Settings.eq_resolve_of_checked hc]
  exact (Pipeline.start_eq_ok h).2.2

theorem concluding_keeps {options : Options} {rest : Pipeline → Session Unit} (label : String)
    (hp : ∀ pipeline, FailsPlainly (rest pipeline))
    (hk : ∀ pipeline, Keeps Workspace.tree (rest pipeline))
    (h : (concluding label (start options >>= rest)).run.run w = (result, w')) :
    w'.tree = w.tree ∧ (result = .ok 2 → w'.invocations = w.invocations) := by
  cases hs : (start options).run.run w with
  | mk started u =>
    obtain rfl := start_unchanged hs
    cases started with
    | error failure =>
      obtain ⟨v, hv, hsilent, -⟩ := run_concluding_error label (run_bind_error hs)
      obtain ⟨ht, -, hi⟩ := Workspace.eq_of_silent hsilent
      rw [hv] at h
      cases h
      exact ⟨ht, fun _ => hi⟩
    | ok pipeline =>
      have htree := hk pipeline u
      cases hr : (rest pipeline).run.run u with
      | mk ended u' =>
        rw [hr] at htree
        have hbind := (run_bind_ok hs).trans hr
        cases ended with
        | error failure =>
          obtain ⟨v, hv, hsilent, -⟩ := run_concluding_error label hbind
          rw [hv] at h
          cases h
          refine ⟨(Workspace.eq_of_silent hsilent).1.trans htree, fun h2 => ?_⟩
          exact absurd h2 (hp pipeline u _ (by rw [hr])).exitStatus_ne_two
        | ok _ =>
          rw [run_concluding_ok label hbind] at h
          cases h
          exact ⟨htree, nofun⟩

theorem keeps_tree_printLine (text : String) : Keeps Workspace.tree (printLine text) :=
  fun _ => rfl

theorem preview_keeps {options : Options}
    (h : (perform options .preview).run.run w = (result, w')) :
    w'.tree = w.tree ∧ (result = .ok 2 → w'.invocations = w.invocations) := by
  refine concluding_keeps "Preview" (fun pipeline => ?_) (fun pipeline => ?_) h
  · exact (FailsPlainly.printLine _).bind fun _ =>
      pipeline.consults_preview.plain.bind fun _ => .printLine _
  · exact (keeps_tree_printLine _).bind fun _ =>
      (pipeline.consults_preview.scene.comp Prod.fst).bind fun _ => keeps_tree_printLine _

theorem apply_keeps {options : Options}
    (h : (perform options .apply).run.run w = (result, w')) :
    w'.tree = w.tree ∧ (result = .ok 2 → w'.invocations = w.invocations) := by
  refine concluding_keeps "Apply" (fun pipeline => ?_) (fun pipeline => ?_) h
  · exact pipeline.consults_apply.plain.bind fun _ => .printLine _
  · exact (pipeline.consults_apply.scene.comp Prod.fst).bind fun _ => keeps_tree_printLine _

theorem stop_keeps (stop : Stop) : Keeps Workspace.silent stop.run := by
  cases stop with
  | help place => exact (Keeps.forM (fun _ _ => rfl) _).bind fun _ => .pure _
  | refused place fault =>
    exact (Keeps.forM (fun _ _ => rfl) _).bind fun _ => .bind (fun _ => rfl) fun _ => .pure _

/-- A command line, with the variables, the clock and the outcomes of commands that it meets. -/
structure Call where
  words : List String
  assignments : List (String × String)
  clock : Clock
  outcomes : List Outcome

namespace Call

def surroundings (call : Call) (w : Workspace) : Workspace :=
  { w with assignments := call.assignments, clock := call.clock, outcomes := call.outcomes }

def run (w : Workspace) (call : Call) : Except Failure Nat × Workspace :=
  (CommandLine.run call.words).run.run (call.surroundings w)

/-- The statements of the dry run that a call begins with. -/
def planned (call : Call) : List Statement :=
  (call.outcomes.headD (.finished (some "") (some "") 0)).statements

end Call

/-- The calls one after the other, whatever they end with. -/
def runAll (w : Workspace) (calls : List Call) : Workspace :=
  calls.foldl (fun w call => (call.run w).2) w

theorem report_ends {generation : Generation} (h : generation.migration = some migration) :
    ∃ printed, (report generation).map (· ++ "\n") =
      printed ++ ["\nMigration content:\n", migration.artifact.content ++ "\n"] := by
  rw [report, h]
  refine ⟨(announced generation.statements ++ noted generation.compilation ++
    (presented migration).take 2).map (· ++ "\n"), ?_⟩
  simp [presented]

/-- What a call leaves in the tree. -/
inductive Effect (call : Call) (w w' : Workspace) : Except Failure Nat → Prop
  | untouched {result : Except Failure Nat} (ht : w'.tree = w.tree)
    (hi : result = .ok 2 → w'.invocations = w.invocations)
    (hn : ∀ options, read call.words = .ok (.generate, options) → call.planned ≠ [] →
      result ≠ .ok 0 ∧ ∀ flaw, result ≠ .error (.notEncodable flaw)) : Effect call w w' result
  | unstored {failure : Failure} (hg : read call.words = .ok (.generate, options))
    (hs : call.planned ≠ []) (hk : failure.Plain)
    (ha : FileTree.AddsDirectories names w.tree w'.tree) : Effect call w w' (exitStatus failure)
  | broken (hg : read call.words = .ok (.generate, options)) (hs : call.planned ≠ [])
    (hm : (Settings.resolve call.assignments options.overrides).migrationsPath? = some directory)
    (hw : w.tree.Within w'.tree)
    (ha : FileTree.AddsOneFile w.directory directory [] w.tree w'.tree) :
    Effect call w w' (.error (.notEncodable flaw))
  | stored (migration : StoredMigration) (hg : read call.words = .ok (.generate, options))
    (hs : call.planned ≠ [])
    (hm : (Settings.resolve call.assignments options.overrides).migrationsPath? = some directory)
    (hw : w.tree.Within w'.tree)
    (ha : FileTree.AddsOneFile w.directory directory migration.artifact.content.toUTF8.toList
      w.tree w'.tree)
    (hp : w'.shown = w.shown ++ printed ++
      ["\nMigration content:\n", migration.artifact.content ++ "\n"]) :
    Effect call w w' (.ok 0)

theorem Performed.effect {call : Call} {options : Options}
    (hg : read call.words = .ok (.generate, options))
    (h : Performed options (call.surroundings w) w' result) : Effect call w w' result := by
  cases h with
  | @unstarted failure hs hsilent =>
    obtain ⟨ht, -, hi⟩ := Workspace.eq_of_silent hsilent
    refine .untouched ht (fun _ => hi) fun _ _ _ => ⟨exitStatus_ne_zero failure, fun flaw he => ?_⟩
    exact encodable_start hs flaw (eq_of_exitStatus_error he)
  | @failed pipeline failure u hs hc hsilent =>
    obtain ⟨ht, -, hi⟩ := Workspace.eq_of_silent hsilent
    cases (generated hc).filed with
    | unplanned hk htree =>
      exact .untouched (ht.trans htree) (fun h2 => absurd h2 hk.exitStatus_ne_two) fun _ _ _ =>
        ⟨exitStatus_ne_zero failure, hk.exitStatus_ne_notEncodable⟩
    | unstored hplanned hk hadded => exact .unstored hg hplanned hk (ht ▸ hadded)
    | broken hplanned hwithin hone =>
      exact .broken hg hplanned (directory_of_start hs) (ht ▸ hwithin) (ht ▸ hone)
  | @done pipeline generation u hs hc hsilent hshown =>
    obtain ⟨ht, -, hi⟩ := Workspace.eq_of_silent hsilent
    cases (generated hc).filed with
    | nothing hplanned htree =>
      exact .untouched (ht.trans htree) nofun fun _ _ hn => absurd hplanned hn
    | @stored migration _ hplanned hm hwithin hone =>
      obtain ⟨printed, hprinted⟩ := report_ends hm
      rw [hprinted, ← List.append_assoc] at hshown
      exact .stored migration hg hplanned (directory_of_start hs) (ht ▸ hwithin) (ht ▸ hone) hshown

theorem Call.effect {call : Call} (h : call.run w = (result, w')) : Effect call w w' result := by
  rw [Call.run, CommandLine.run] at h
  cases hg : read call.words with
  | error stop =>
    rw [hg] at h
    have hsilent := stop_keeps stop (call.surroundings w)
    simp only at h
    rw [h] at hsilent
    obtain ⟨ht, -, hi⟩ := Workspace.eq_of_silent hsilent
    refine .untouched ht (fun _ => hi) fun options he => ?_
    rw [hg] at he
    cases he
  | ok given =>
    obtain ⟨command, options⟩ := given
    rw [hg] at h
    cases command with
    | generate => exact (performed h).effect hg
    | preview =>
      obtain ⟨ht, hi⟩ := preview_keeps h
      refine .untouched ht hi fun options he => ?_
      rw [hg] at he
      cases he
    | apply =>
      obtain ⟨ht, hi⟩ := apply_keeps h
      refine .untouched ht hi fun options he => ?_
      rw [hg] at he
      cases he

theorem Effect.within {call : Call} (h : Effect call w w' result) : w.tree.Within w'.tree := by
  cases h with
  | untouched ht => rw [ht]; exact .refl _
  | unstored _ _ _ ha => exact ha.within
  | broken _ _ _ hw => exact hw
  | stored _ _ _ _ hw => exact hw

theorem Effect.new_iff {call : Call} (h : Effect call w w' result) :
    (∃ place bytes, w'.tree.get? place = some (.file bytes) ∧
        w.tree.get? place ≠ some (.file bytes)) ↔
      (∃ options, read call.words = .ok (.generate, options)) ∧ call.planned ≠ [] ∧
        (result = .ok 0 ∨ ∃ flaw, result = .error (.notEncodable flaw)) := by
  constructor
  · rintro ⟨place, bytes, hnew, hold⟩
    cases h with
    | untouched ht =>
      rw [ht] at hnew
      exact absurd hnew hold
    | unstored hg hs hk ha => exact absurd ((ha.file_iff place bytes).1 hnew) hold
    | broken hg hs => exact ⟨⟨_, hg⟩, hs, .inr ⟨_, rfl⟩⟩
    | stored migration hg hs => exact ⟨⟨_, hg⟩, hs, .inl rfl⟩
  · rintro ⟨⟨options, hg⟩, hs, hr⟩
    cases h with
    | untouched ht hi hn =>
      obtain ⟨h0, hk⟩ := hn options hg hs
      exact absurd hr (not_or.2 ⟨h0, not_exists.2 hk⟩)
    | unstored hg hs hk ha =>
      exact absurd hr
        (not_or.2 ⟨exitStatus_ne_zero _, not_exists.2 hk.exitStatus_ne_notEncodable⟩)
    | broken _ _ _ _ ha => exact ha.exists_new
    | stored migration _ _ _ _ ha => exact ha.exists_new

theorem Effect.adds_of_zero {call : Call} {options : Options} (h : Effect call w w' result)
    (hg : read call.words = .ok (.generate, options)) (hs : call.planned ≠ [])
    (hr : result = .ok 0) :
    ∃ directory, ∃ migration : StoredMigration, ∃ printed,
      (Settings.resolve call.assignments options.overrides).migrationsPath? = some directory ∧
      FileTree.AddsOneFile w.directory directory migration.artifact.content.toUTF8.toList
        w.tree w'.tree ∧
      w'.shown = w.shown ++ printed ++
        ["\nMigration content:\n", migration.artifact.content ++ "\n"] := by
  cases h with
  | untouched ht hi hn => exact absurd hr (hn options hg hs).1
  | unstored => exact absurd hr (exitStatus_ne_zero _)
  | broken => cases hr
  | stored migration hg' _ hm _ ha hp =>
    rw [hg] at hg'
    cases hg'
    exact ⟨_, migration, _, hm, ha, hp⟩

theorem Effect.adds_of_notEncodable {call : Call} {options : Options}
    (h : Effect call w w' result) (hg : read call.words = .ok (.generate, options))
    (hs : call.planned ≠ []) (hr : result = .error (.notEncodable flaw)) :
    ∃ directory,
      (Settings.resolve call.assignments options.overrides).migrationsPath? = some directory ∧
      FileTree.AddsOneFile w.directory directory [] w.tree w'.tree := by
  cases h with
  | untouched ht hi hn => exact absurd hr ((hn options hg hs).2 flaw)
  | unstored _ _ hk => exact absurd hr (hk.exitStatus_ne_notEncodable flaw)
  | broken hg' _ hm _ ha =>
    rw [hg] at hg'
    cases hg'
    exact ⟨_, hm, ha⟩
  | stored => cases hr

theorem Effect.tree_eq {call : Call} (h : Effect call w w' result)
    (hr : result = .ok 2 ∨ (∀ options, read call.words ≠ .ok (.generate, options)) ∨
      call.planned = []) : w'.tree = w.tree := by
  have hgenerate {options : Options} (hg : read call.words = .ok (.generate, options))
      (hs : call.planned ≠ []) : result = .ok 2 := by
    rcases hr with hr | hr | hr
    · exact hr
    · exact absurd hg (hr options)
    · exact absurd hr hs
  cases h with
  | untouched ht => exact ht
  | unstored hg hs hk => exact absurd (hgenerate hg hs) hk.exitStatus_ne_two
  | broken hg hs => cases hgenerate hg hs
  | stored migration hg hs => cases hgenerate hg hs

theorem Effect.invocations_eq {call : Call} (h : Effect call w w' result)
    (hr : result = .ok 2) : w'.invocations = w.invocations := by
  cases h with
  | untouched ht hi => exact hi hr
  | unstored hg hs hk => exact absurd hr hk.exitStatus_ne_two
  | broken => cases hr
  | stored => cases hr

theorem runAll_within (w : Workspace) (calls : List Call) :
    w.tree.Within (runAll w calls).tree := by
  induction calls generalizing w with
  | nil => exact .refl _
  | cons call calls ih => exact (call.effect rfl).within.trans (ih _)

/-- Whatever was called before, a call leaves every file as it is. It adds one exactly if it is to
generate a migration, the dry run gave statements, and it either succeeds or cannot encode the
source. If it succeeds, that is one file in the directory of the settings, with the source that it
printed; a source that cannot be encoded leaves an empty one. A call that ends for its usage or its
settings, one with another command and one without statements leave the tree as it was, and the
first of them runs no command. -/
theorem runAll_then_run {calls : List Call} {call : Call} (hb : runAll w calls = before)
    (h : call.run before = (result, after)) :
    (∀ place bytes, w.tree.get? place = some (.file bytes) ∨
        before.tree.get? place = some (.file bytes) →
      after.tree.get? place = some (.file bytes)) ∧
    ((∃ place bytes, after.tree.get? place = some (.file bytes) ∧
        before.tree.get? place ≠ some (.file bytes)) ↔
      (∃ options, read call.words = .ok (.generate, options)) ∧ call.planned ≠ [] ∧
        (result = .ok 0 ∨ ∃ flaw, result = .error (.notEncodable flaw))) ∧
    (∀ options, read call.words = .ok (.generate, options) → call.planned ≠ [] →
      (result = .ok 0 → ∃ directory, ∃ migration : StoredMigration, ∃ printed,
        (Settings.resolve call.assignments options.overrides).migrationsPath? = some directory ∧
        FileTree.AddsOneFile before.directory directory
          migration.artifact.content.toUTF8.toList before.tree after.tree ∧
        after.shown = before.shown ++ printed ++
          ["\nMigration content:\n", migration.artifact.content ++ "\n"]) ∧
      (∀ flaw, result = .error (.notEncodable flaw) → ∃ directory,
        (Settings.resolve call.assignments options.overrides).migrationsPath? = some directory ∧
        FileTree.AddsOneFile before.directory directory [] before.tree after.tree)) ∧
    (result = .ok 2 ∨ (∀ options, read call.words ≠ .ok (.generate, options)) ∨
        call.planned = [] → after.tree = before.tree) ∧
    (result = .ok 2 → after.invocations = before.invocations) := by
  have he := Call.effect h
  have hwithin := hb ▸ runAll_within w calls
  exact ⟨fun place bytes hf => he.within.entries place _ (hf.elim (hwithin.entries place _) id),
    he.new_iff,
    fun options hg hs => ⟨he.adds_of_zero hg hs, fun _ => he.adds_of_notEncodable hg hs⟩, he.tree_eq,
    he.invocations_eq⟩

/-- A type map whose only type is half of a surrogate pair. -/
def halfTypeMap : List UInt8 :=
  "types:\n  citext: \x7btype: \"\\ud83d\"\x7d\n".toList.map fun c => c.toNat.toUInt8

def halfWorkspace : Workspace :=
  { emptyWorkspace with tree := { entries := [(["types.yaml"], .file halfTypeMap)] } }

def halfCall : Call where
  words := ["generate", "--type-map", "types.yaml"]
  assignments := []
  clock := .time ⟨⟨2024, 2, 29⟩, 12, 0, 0⟩
  outcomes := [.finished (some "-> ALTER TABLE users ADD COLUMN nick citext") none 0]

/-- A call for the same change that does without the type map. -/
def wholeCall : Call := { halfCall with words := ["g", "Add nick"] }

theorem wholeCall_adds : ∃ options result after directory, ∃ migration : StoredMigration,
    read wholeCall.words = .ok (.generate, options) ∧
    wholeCall.run (runAll halfWorkspace [halfCall]) = (result, after) ∧ result = .ok 0 ∧
    FileTree.AddsOneFile (runAll halfWorkspace [halfCall]).directory directory
      migration.artifact.content.toUTF8.toList (runAll halfWorkspace [halfCall]).tree
      after.tree := by
  have hr : (wholeCall.run (runAll halfWorkspace [halfCall])).1 = .ok 0 := by decide +kernel
  have hs : wholeCall.planned ≠ [] := by decide +kernel
  have hg : read wholeCall.words = .ok (.generate, { name := some "Add nick" }) := by
    decide +kernel
  cases h : wholeCall.run (runAll halfWorkspace [halfCall]) with
  | mk result after =>
    rw [h] at hr
    obtain ⟨-, -, hadds, -⟩ := runAll_then_run rfl h
    obtain ⟨directory, migration, -, -, hone, -⟩ := (hadds _ hg hs).1 hr
    exact ⟨_, result, after, directory, migration, hg, rfl, hr, hone⟩

/-- A call that does not succeed, and still leaves a file. -/
theorem halfCall_adds :
    (halfCall.run halfWorkspace).1 ≠ .ok 0 ∧
    (halfCall.run halfWorkspace).2.tree.get?
      ["db", "migrate", "20240229120000_schema_update.rb"] = some (.file []) ∧
    halfWorkspace.tree.get? ["db", "migrate", "20240229120000_schema_update.rb"] = none := by
  decide +kernel

end CommandLine

end SchemaPlan
