import SchemaPlan.Proofs.Migration.Breaking

namespace SchemaPlan

open Session

variable {w w' : Workspace} {failure : Failure}

def Event.reported? : Event → Option String
  | .reported text => some text
  | _ => none

def Workspace.reports (w : Workspace) : List String := w.events.filterMap Event.reported?

/-- What no step of a command touches: the clock, and what was reported. -/
def Workspace.background (w : Workspace) : Clock × List String := (w.clock, w.reports)

theorem Workspace.reports_adding (w : Workspace) (events : List Event) :
    (w.adding events).reports = w.reports ++ events.filterMap Event.reported? :=
  List.filterMap_append

def Workspace.reporting (w : Workspace) (texts : List String) : Workspace :=
  w.adding (texts.map fun text => .reported (text ++ "\n"))

theorem Workspace.reports_reporting (w : Workspace) (texts : List String) :
    (w.reporting texts).reports = w.reports ++ texts.map (· ++ "\n") := by
  have hr : (Event.reported? ∘ fun text => Event.reported (text ++ "\n")) =
      some ∘ fun text => text ++ "\n" := rfl
  rw [reporting, reports_adding, List.filterMap_map, hr, List.filterMap_eq_map]

theorem Workspace.reports_printing (w : Workspace) (texts : List String) :
    (w.printing texts).reports = w.reports := by
  have hp : (Event.reported? ∘ fun text => Event.printed (text ++ "\n")) = fun _ => none := rfl
  rw [printing, reports_adding, List.filterMap_map, hp, List.filterMap_none, List.append_nil]

theorem Workspace.reporting_reporting (w : Workspace) (first second : List String) :
    (w.reporting first).reporting second = w.reporting (first ++ second) := by
  simp [reporting, adding]

theorem Session.run_reportLine (text : String) (w : Workspace) :
    (reportLine text).run.run w = (.ok (), w.reporting [text]) := rfl

theorem Session.run_forM_reportLine (texts : List String) (w : Workspace) :
    (texts.forM reportLine).run.run w = (.ok (), w.reporting texts) := by
  induction texts generalizing w with
  | nil =>
    have hw : w.reporting [] = w := by simp [Workspace.reporting, Workspace.adding]
    rw [hw]
    rfl
  | cons text texts ih =>
    rw [List.forM, run_bind_ok (run_reportLine _ _), ih, Workspace.reporting_reporting]
    rfl

section Background

theorem keeps_background_adding {events : List Event} (h : events.filterMap Event.reported? = [])
    (w : Workspace) : (w.adding events).background = w.background := by
  rw [Workspace.background, Workspace.reports_adding, h, List.append_nil]
  rfl

theorem reported_logged (records : List LogRecord) :
    (records.map Event.logged).filterMap Event.reported? = [] := by
  rw [List.filterMap_map]
  simp [Function.comp_def, Event.reported?]

theorem background_ran (w : Workspace) (commands : List Invocation) (records : List LogRecord) :
    (w.ran commands records).background = w.background :=
  keeps_background_adding (reported_logged records) w

theorem keeps_background_printLine (text : String) :
    Keeps Workspace.background (printLine text) := keeps_background_adding rfl

namespace Pipeline

variable (pipeline : Pipeline)

theorem keeps_background_plan : Keeps Workspace.background pipeline.plan := by
  intro w
  rw [run_plan_printed]
  exact background_ran ..

theorem keeps_background_preview : Keeps Workspace.background pipeline.preview := by
  intro w
  rw [run_preview_printed]
  exact background_ran ..

theorem keeps_background_apply : Keeps Workspace.background pipeline.apply := by
  intro w
  rw [run_apply]
  exact background_ran ..

theorem keeps_background_compile (statements : List Statement) (name : Option String) :
    Keeps Workspace.background (pipeline.compile statements name) := by
  intro w
  rw [run_compile]
  exact keeps_background_adding (reported_logged _) w

theorem keeps_background_write (artifact : Artifact) (flaw : Option Flaw) :
    Keeps Workspace.background (pipeline.store.write artifact flaw) :=
  MigrationStore.keeps_write (fun _ _ => rfl) fun w record =>
    keeps_background_adding (reported_logged [record]) w

end Pipeline

namespace CommandLine

theorem keeps_background_start (options : Options) :
    Keeps Workspace.background (start options) := by
  intro w
  cases hs : (start options).run.run w with
  | mk result u => rw [start_unchanged hs]

theorem keeps_background_generate (options : Options) :
    Keeps Workspace.background (generate options) := by
  refine (keeps_background_start options).bind fun pipeline =>
    pipeline.keeps_background_plan.bind fun statements => ?_
  split
  · exact keeps_background_printLine _
  · have hannounce : Keeps Workspace.background (announce statements) :=
      (keeps_background_printLine _).bind fun _ => .forM (fun _ => keeps_background_printLine _) _
    have hpresent (migration : StoredMigration) : Keeps Workspace.background (present migration) :=
      (keeps_background_printLine _).bind fun _ => (keeps_background_printLine _).bind fun _ =>
        (keeps_background_printLine _).bind fun _ => keeps_background_printLine _
    refine hannounce.bind fun _ =>
      (pipeline.keeps_background_compile _ _).bind fun compilation => ?_
    have hnoted {x : Session Unit} (text : String) (h : Keeps Workspace.background x) :
        Keeps Workspace.background (printLine text >>= fun _ => x) :=
      (keeps_background_printLine text).bind fun _ => h
    dsimp only
    cases compilation.artifact with
    | some artifact =>
      have hstore := (pipeline.keeps_background_write artifact compilation.flaw).bind hpresent
      split
      · exact hnoted _ hstore
      · exact hstore
    | none =>
      split
      · exact hnoted _ (.pure _)
      · exact .pure _

theorem keeps_background_preview (options : Options) :
    Keeps Workspace.background (preview options) :=
  (keeps_background_start options).bind fun pipeline => (keeps_background_printLine _).bind fun _ =>
    pipeline.keeps_background_preview.bind fun _ => keeps_background_printLine _

theorem keeps_background_apply (options : Options) :
    Keeps Workspace.background (apply options) :=
  (keeps_background_start options).bind fun pipeline =>
    pipeline.keeps_background_apply.bind fun _ => keeps_background_printLine _

end CommandLine

end Background

namespace Settings

variable {settings : Settings} {explicit : Overrides} {tree : FileTree} {directory : List String}

/-- The type map that settings name, if any. -/
def typeMap? (settings : Settings) : Option String := settings.typeMapPath.filter (· ≠ "")

theorem problems_of_none (h : settings.typeMap? = none) :
    settings.problems tree directory = .ok (settings.problemsWith true) := by
  rw [problems, ← typeMap?, h]

theorem problems_of_error (h : settings.typeMap? = some path)
    (hf : tree.isFile directory (.ofString path) = .error fault) :
    settings.problems tree directory = .error fault := by
  rw [problems, ← typeMap?, h]
  dsimp only
  rw [hf]
  rfl

theorem problems_of_ok (h : settings.typeMap? = some path)
    (hf : tree.isFile directory (.ofString path) = .ok found) :
    settings.problems tree directory = .ok (settings.problemsWith found) := by
  rw [problems, ← typeMap?, h]
  dsimp only
  rw [hf]
  rfl

theorem problems_eq_error_iff : settings.problems tree directory = .error fault ↔
    ∃ path, settings.typeMap? = some path ∧
      tree.isFile directory (.ofString path) = .error fault := by
  cases hp : settings.typeMap? with
  | none =>
    rw [problems_of_none hp]
    constructor
    · intro h
      cases h
    · rintro ⟨_, h, -⟩
      cases h
  | some path =>
    cases hf : tree.isFile directory (.ofString path) with
    | error fault' =>
      rw [problems_of_error hp hf]
      constructor
      · rintro ⟨⟩
        exact ⟨path, rfl, hf⟩
      · rintro ⟨path', ⟨⟩, hf'⟩
        cases hf.symm.trans hf'
        rfl
    | ok found =>
      rw [problems_of_ok hp hf]
      constructor
      · intro h
        cases h
      · rintro ⟨path', ⟨⟩, hf'⟩
        cases hf.symm.trans hf'

theorem exists_of_not_blank {text : Option String} {problem : Problem}
    (h : (if isBlankText text then [problem] else []) = []) : ∃ value, text = some value := by
  cases text with
  | none => cases h
  | some value => exact ⟨value, rfl⟩

theorem of_problemsWith_eq_nil {found : Bool} (h : settings.problemsWith found = []) :
    (∃ environment, settings.environment = some environment) ∧
    (∃ command, settings.atlasCommand = some command) ∧
    (∃ migrations, settings.migrationsDirectory = some migrations) ∧
    ∀ path, settings.typeMap? = some path → found = true := by
  simp only [problemsWith, List.append_eq_nil_iff] at h
  obtain ⟨⟨⟨⟨he, hc⟩, hm⟩, -⟩, hp⟩ := h
  refine ⟨exists_of_not_blank he, exists_of_not_blank hc, exists_of_not_blank hm, ?_⟩
  intro path hpath
  obtain ⟨hs, hn⟩ := Option.filter_eq_some_iff.1 hpath
  rw [hs] at hp
  by_contra hf
  simp [hf, of_decide_eq_true hn] at hp

theorem of_problems_eq_nil (h : settings.problems tree directory = .ok []) :
    (∃ environment, settings.environment = some environment) ∧
    (∃ command, settings.atlasCommand = some command) ∧
    (∃ migrations, settings.migrationsDirectory = some migrations) ∧
    ∀ path, settings.typeMap? = some path →
      tree.isFile directory (.ofString path) = .ok true := by
  cases hp : settings.typeMap? with
  | none =>
    rw [problems_of_none hp] at h
    obtain ⟨he, hc, hm, -⟩ := of_problemsWith_eq_nil (Except.ok.inj h)
    refine ⟨he, hc, hm, fun _ h => ?_⟩
    cases h
  | some path =>
    cases hf : tree.isFile directory (.ofString path) with
    | error fault =>
      rw [problems_of_error hp hf] at h
      cases h
    | ok found =>
      rw [problems_of_ok hp hf] at h
      obtain ⟨he, hc, hm, hfound⟩ := of_problemsWith_eq_nil (Except.ok.inj h)
      refine ⟨he, hc, hm, ?_⟩
      rintro _ ⟨⟩
      rw [hf, hfound path hp]

theorem run_check (settings : Settings) (w : Workspace) :
    (settings.problems w.tree w.directory = .ok [] ∧
      settings.check.run.run w = (.ok (), w)) ∨
    (∃ fault, settings.problems w.tree w.directory = .error fault ∧
      settings.check.run.run w = (.error (.file
        ((settings.typeMapPath.map (Path.ofString · |>.text)).getD "") fault), w)) ∨
    ∃ problems, settings.problems w.tree w.directory = .ok problems ∧
      settings.check.run.run w = (.error (.badSettings problems), w) := by
  rw [check, run_get_bind]
  cases settings.problems w.tree w.directory with
  | error fault => exact .inr (.inl ⟨fault, rfl, rfl⟩)
  | ok problems =>
    cases problems with
    | nil => exact .inl ⟨rfl, rfl⟩
    | cons problem problems => exact .inr (.inr ⟨problem :: problems, rfl, rfl⟩)

theorem problems_of_checked (h : (checked explicit).run.run w = (.ok settings, w')) :
    settings.problems w.tree w.directory = .ok [] := by
  obtain rfl := eq_resolve_of_checked h
  rw [checked, run_get_bind] at h
  obtain ⟨_, u, hc, -⟩ := ok_of_bind h
  rcases run_check _ w with ⟨hp, -⟩ | ⟨fault, -, he⟩ | ⟨problems, -, he⟩
  · exact hp
  · cases he.symm.trans hc
  · cases he.symm.trans hc

theorem exists_projectRoot (assignments : List (String × String)) (explicit : Overrides) :
    ∃ root, (resolve assignments explicit).projectRoot = some root := by
  refine ⟨(explicit.projectRoot.or (assignments.lookup ("SCHEMABRIDGE_" ++ "ROOT"))).getD ".", ?_⟩
  change Option.or _ (some ".") = _
  cases explicit.projectRoot.or (assignments.lookup ("SCHEMABRIDGE_" ++ "ROOT")) <;> rfl

theorem breaks_checked : Breaks (checked explicit) w failure ↔
    ∃ path fault, (resolve w.assignments explicit).typeMap? = some path ∧
      w.tree.isFile w.directory (.ofString path) = .error fault ∧
      failure = .file (Path.ofString path).text fault := by
  rw [checked, breaks_get_bind]
  refine (breaks_bind fun _ => .pure _).trans ?_
  generalize resolve w.assignments explicit = settings
  have hnone {problems : List Problem}
      (hp : settings.problems w.tree w.directory = .ok problems) :
      ¬ ∃ path fault, settings.typeMap? = some path ∧
        w.tree.isFile w.directory (.ofString path) = .error fault ∧
        failure = .file (Path.ofString path).text fault := by
    rintro ⟨path, fault, hm, hf, -⟩
    cases hp.symm.trans (problems_of_error hm hf)
  rcases run_check settings w with ⟨hp, he⟩ | ⟨fault, hp, he⟩ | ⟨problems, hp, he⟩
  · exact iff_of_false (not_breaks he) (hnone hp)
  · obtain ⟨path, hm, hf⟩ := problems_eq_error_iff.1 hp
    obtain ⟨hpath, -⟩ := Option.filter_eq_some_iff.1 hm
    rw [breaks_iff he, hpath]
    constructor
    · rintro ⟨rfl, -⟩
      exact ⟨path, fault, hm, hf, rfl⟩
    · rintro ⟨path', fault', hm', hf', rfl⟩
      obtain rfl := Option.some.inj (hm.symm.trans hm')
      cases hf.symm.trans hf'
      exact ⟨rfl, rfl⟩
  · refine iff_of_false (fun hb => ?_) (hnone hp)
    cases ((breaks_iff he).1 hb).2

end Settings

theorem FileTree.read_of_isFile {t : FileTree} {path : Path}
    (h : t.isFile directory path = .ok true) :
    t.read directory path = .error .accessDenied ∨
      ∃ content, t.read directory path = .ok content := by
  cases hl : t.locate directory path with
  | error fault =>
    rw [isFile, denotes, find?, hl] at h
    cases fault <;> cases h
  | ok place =>
    rw [isFile, denotes, find?_of_locate hl] at h
    rw [read, hl]
    cases hg : t.get? place with
    | none =>
      rw [hg] at h
      cases h
    | some entry =>
      rw [hg] at h
      cases entry with
      | directory => cases h
      | file content =>
        cases ha : t.allows place .read with
        | false =>
          refine .inl ?_
          simp only [bind, Except.bind, hg, ha]
          rfl
        | true =>
          refine .inr ⟨content, ?_⟩
          simp only [bind, Except.bind, hg, ha]
          rfl

namespace TypeMapping

theorem breaks_load {path : Path} {base : TypeMapping}
    (hf : w.tree.isFile w.directory path = .ok true) :
    Breaks (load path base) w failure ↔ ∃ content fault,
      w.tree.read w.directory path = .ok content ∧ ofFile base content = .error fault ∧
      Failure.typeMapConcern fault = .unforeseen ∧ failure = .typeMap path.text fault := by
  rw [load, breaks_get_bind]
  rcases FileTree.read_of_isFile hf with hr | ⟨content, hr⟩
  · rw [hr]
    refine iff_of_false (Sound.throw ?_ w failure) ?_
    · intro h
      cases h
    · rintro ⟨_, _, ⟨⟩, -⟩
  · rw [hr]
    dsimp only
    cases hm : ofFile base content with
    | ok mapping =>
      refine iff_of_false (Sound.pure _ w failure) ?_
      rintro ⟨_, _, ⟨⟩, h, -⟩
      cases hm.symm.trans h
    | error fault =>
      refine breaks_throw.trans ⟨?_, ?_⟩
      · rintro ⟨rfl, hk⟩
        exact ⟨content, fault, rfl, hm, hk, rfl⟩
      · rintro ⟨_, fault', ⟨⟩, hf, hk, rfl⟩
        cases hm.symm.trans hf
        exact ⟨rfl, hk⟩

end TypeMapping

namespace CommandLine

/-- How a command breaks before it has a pipeline: over the path of a type map that cannot be tried,
or over what the type map says. -/
inductive Unstarted (options : Options) (w : Workspace) : Failure → Prop
  | path (hm : (Settings.resolve w.assignments options.overrides).typeMap? = some path)
    (hf : w.tree.isFile w.directory (.ofString path) = .error fault) :
    Unstarted options w (.file (Path.ofString path).text fault)
  | types (hs : (Settings.checked options.overrides).run.run w = (.ok settings, w))
    (hm : settings.typeMap? = some path)
    (hc : w.tree.read w.directory (.ofString path) = .ok content)
    (hf : TypeMapping.ofFile .standard content = .error fault)
    (hk : Failure.typeMapConcern fault = .unforeseen) :
    Unstarted options w (.typeMap (Path.ofString path).text fault)

theorem unstarted_iff {options : Options} {settings : Settings}
    (hs : (Settings.checked options.overrides).run.run w = (.ok settings, w)) :
    Unstarted options w failure ↔ ∃ path content fault, settings.typeMap? = some path ∧
      w.tree.read w.directory (.ofString path) = .ok content ∧
      TypeMapping.ofFile .standard content = .error fault ∧
      Failure.typeMapConcern fault = .unforeseen ∧
      failure = .typeMap (Path.ofString path).text fault := by
  obtain ⟨-, -, -, hfile⟩ := Settings.of_problems_eq_nil (Settings.problems_of_checked hs)
  constructor
  · intro h
    cases h with
    | path hm hf =>
      rw [← Settings.eq_resolve_of_checked hs] at hm
      cases hf.symm.trans (hfile _ hm)
    | types hs' hm hc hf hk =>
      cases hs.symm.trans hs'
      exact ⟨_, _, _, hm, hc, hf, hk, rfl⟩
  · rintro ⟨path, content, fault, hm, hc, hf, hk, rfl⟩
    exact .types hs hm hc hf hk

theorem breaks_pipeline {options : Options} {settings : Settings}
    (hs : (Settings.checked options.overrides).run.run w = (.ok settings, w)) :
    Breaks (Pipeline.start settings) w failure ↔ Unstarted options w failure := by
  obtain ⟨-, -, ⟨migrations, hmigrations⟩, hfile⟩ :=
    Settings.of_problems_eq_nil (Settings.problems_of_checked hs)
  obtain ⟨root, hr⟩ := Settings.exists_projectRoot w.assignments options.overrides
  rw [← Settings.eq_resolve_of_checked hs] at hr
  have hroot : (Pipeline.settingOr settings.rootPath?).run.run w = (.ok (.ofString root), w) := by
    rw [Settings.rootPath?, hr]
    rfl
  have hrest (mapping : TypeMapping) : Sound (do
      let directory ← Pipeline.settingOr settings.migrationsPath?
      return ⟨settings, ⟨settings.atlasCommand, some (.ofString root)⟩, mapping, ⟨directory⟩⟩ :
        Session Pipeline) := by
    rw [Settings.migrationsPath?, Settings.rootPath?, hmigrations, hr]
    exact .pure _
  rw [unstarted_iff hs, Pipeline.start, breaks_bind_ok hroot, ← Settings.typeMap?]
  cases hm : settings.typeMap? with
  | none =>
    refine iff_of_false (hrest .standard w failure) ?_
    rintro ⟨_, _, _, ⟨⟩, -⟩
  | some path =>
    refine (breaks_bind hrest).trans ((TypeMapping.breaks_load (hfile path hm)).trans ⟨?_, ?_⟩)
    · rintro ⟨content, fault, h⟩
      exact ⟨path, content, fault, rfl, h⟩
    · rintro ⟨_, content, fault, ⟨⟩, h⟩
      exact ⟨content, fault, h⟩

theorem breaks_start {options : Options} :
    Breaks (start options) w failure ↔ Unstarted options w failure := by
  rw [start]
  cases hs : (Settings.checked options.overrides).run.run w with
  | mk result u =>
    have hu := Settings.keeps_checked options.overrides w
    rw [hs] at hu
    obtain rfl : u = w := hu
    cases result with
    | ok settings => rw [breaks_bind_ok hs, breaks_pipeline hs]
    | error e =>
      rw [breaks_bind_error hs, ← breaks_iff hs, Settings.breaks_checked]
      constructor
      · rintro ⟨path, fault, hm, hf, rfl⟩
        exact .path hm hf
      · intro h
        cases h with
        | path hm hf => exact ⟨_, _, hm, hf, rfl⟩
        | types hs' => cases hs.symm.trans hs'

theorem exists_of_start {options : Options} {pipeline : Pipeline}
    (hs : (start options).run.run w = (.ok pipeline, w')) :
    (∃ command, pipeline.atlas.command = some command) ∧
      ∃ environment, pipeline.settings.environment = some environment := by
  obtain ⟨settings, u, hc, hp⟩ := ok_of_bind hs
  obtain ⟨he, hcommand, -⟩ := Settings.of_problems_eq_nil (Settings.problems_of_checked hc)
  obtain ⟨rfl, ha, -⟩ := Pipeline.start_eq_ok hp
  rw [ha]
  exact ⟨hcommand, he⟩

theorem breaks_generate {options : Options} {pipeline : Pipeline} {command environment : String}
    (hs : (start options).run.run w = (.ok pipeline, w))
    (hc : pipeline.atlas.command = some command)
    (he : pipeline.settings.environment = some environment) :
    Breaks (generate options) w failure ↔
      w.outcome = .denied ∧ failure = .file command .accessDenied ∨
      w.outcome.statements ≠ [] ∧ ∃ artifact,
        (pipeline.compiled w.outcome.statements options.name).value.artifact = some artifact ∧
        pipeline.store.Unwritable artifact
          (pipeline.compiled w.outcome.statements options.name).value.flaw
          w.tree w.directory w.clock failure := by
  have hplan : Breaks pipeline.plan w failure ↔
      w.outcome = .denied ∧ failure = .file command .accessDenied := Pipeline.breaks_plan hc he
  cases hp : pipeline.plan.run.run w with
  | mk planned u =>
    cases planned with
    | error e =>
      have hnone : w.outcome.statements = [] := by
        by_contra hn
        obtain ⟨u', hplanned⟩ := Pipeline.exists_plan hc he hn
        cases hp.symm.trans hplanned
      rw [generate, breaks_bind_ok hs, breaks_bind_error hp, ← breaks_iff hp, hplan]
      simp [hnone]
    | ok statements =>
      obtain rfl := Pipeline.plan_eq_ok hp
      have hdenied : ¬ (w.outcome = .denied ∧ failure = .file command .accessDenied) :=
        fun hd => not_breaks hp (hplan.2 hd)
      simp only [hdenied, false_or]
      by_cases hn : w.outcome.statements = []
      · rw [generate, breaks_bind_ok hs, breaks_bind_ok hp, if_pos (by rw [hn]; rfl)]
        exact iff_of_false (Sound.printLine _ u failure) fun h => h.1 hn
      · obtain ⟨body, name', frameworkVersion, ha⟩ := pipeline.exists_artifact options.name hn
        obtain ⟨v, hrun, hsilent, -⟩ := run_generate_planned hs hp hn ha
        have hslug : ∀ c ∈ (Artifact.ofBody body name' frameworkVersion).slug.toList,
            Slug.isSlugChar c = true := fun c hm => Slug.isSlugChar_of_mem_ofName hm
        have hpresent (migration : StoredMigration) : Sound (present migration) :=
          fun w failure => not_breaks (run_present migration w)
        have hscene := pipeline.consults_plan.scene w
        have hclock := congrArg Prod.fst (pipeline.keeps_background_plan w)
        rw [hp] at hscene hclock
        obtain ⟨ht, hd, -⟩ := Workspace.eq_of_silent hsilent
        have htree : v.tree = w.tree := ht.trans (congrArg (·.1) hscene)
        have hdirectory : v.directory = w.directory := hd.trans (congrArg (·.2.1) hscene)
        have hclock : v.clock = w.clock := (congrArg Workspace.clock hsilent).trans hclock
        rw [Breaks, hrun, ← Breaks, breaks_bind hpresent, MigrationStore.breaks_write hslug, htree,
          hdirectory, hclock]
        constructor
        · exact fun h => ⟨hn, _, ha, h⟩
        · rintro ⟨-, artifact, ha', h⟩
          obtain rfl := Option.some.inj (ha.symm.trans ha')
          exact h

def Command.label : Command → String
  | .generate => "Generation"
  | .preview => "Preview"
  | .apply => "Apply"

/-- What a command does until its end is reported. -/
def body (options : Options) : Command → Session Unit
  | .generate => generate options
  | .preview => preview options
  | .apply => apply options

theorem perform_eq (options : Options) (command : Command) :
    perform options command = concluding command.label (body options command) := by
  cases command <;> rfl

theorem keeps_background_body (options : Options) (command : Command) :
    Keeps Workspace.background (body options command) := by
  cases command with
  | generate => exact keeps_background_generate options
  | preview => exact keeps_background_preview options
  | apply => exact keeps_background_apply options

/-- How a command breaks: before it has a pipeline, over a command that it must not run, or over a
migration that cannot be stored. -/
inductive Crash (options : Options) (w : Workspace) : Command → Failure → Prop
  | unstarted {command : Command} {failure : Failure} (hu : Unstarted options w failure) :
    Crash options w command failure
  | denied {command : Command} (hs : (start options).run.run w = (.ok pipeline, w))
    (hc : pipeline.atlas.command = some name) (ho : w.outcome = .denied) :
    Crash options w command (.file name .accessDenied)
  | unrefreshed (hs : (start options).run.run w = (.ok pipeline, w))
    (ho : w.outcome.succeeds = true) (hd : pipeline.settings.schemaDump = some true)
    (hn : w.secondOutcome = .denied) : Crash options w .apply (.file "bin/rails" .accessDenied)
  | unstored {failure : Failure} (hs : (start options).run.run w = (.ok pipeline, w))
    (hn : w.outcome.statements ≠ [])
    (ha : (pipeline.compiled w.outcome.statements options.name).value.artifact = some artifact)
    (hu : pipeline.store.Unwritable artifact
      (pipeline.compiled w.outcome.statements options.name).value.flaw
      w.tree w.directory w.clock failure) : Crash options w .generate failure

theorem crash_iff_of_error {options : Options} {command : Command} {e : Failure}
    (hs : (start options).run.run w = (.error e, w')) :
    Crash options w command failure ↔ Unstarted options w failure := by
  obtain rfl := start_unchanged hs
  constructor
  · intro h
    cases h with
    | unstarted hu => exact hu
    | denied hs' => cases hs.symm.trans hs'
    | unrefreshed hs' => cases hs.symm.trans hs'
    | unstored hs' => cases hs.symm.trans hs'
  · exact .unstarted

theorem crash_iff_of_ok {options : Options} {command : Command} {pipeline : Pipeline}
    {name : String} (hs : (start options).run.run w = (.ok pipeline, w))
    (hc : pipeline.atlas.command = some name) :
    Crash options w command failure ↔ w.outcome = .denied ∧ failure = .file name .accessDenied ∨
      command = .apply ∧ w.outcome.succeeds = true ∧ pipeline.settings.schemaDump = some true ∧
        w.secondOutcome = .denied ∧ failure = .file "bin/rails" .accessDenied ∨
      command = .generate ∧ w.outcome.statements ≠ [] ∧ ∃ artifact,
        (pipeline.compiled w.outcome.statements options.name).value.artifact = some artifact ∧
        pipeline.store.Unwritable artifact
          (pipeline.compiled w.outcome.statements options.name).value.flaw
          w.tree w.directory w.clock failure := by
  constructor
  · intro h
    cases h with
    | unstarted hu => exact absurd (breaks_start.2 hu) (not_breaks hs)
    | denied hs' hc' ho =>
      cases hs.symm.trans hs'
      cases hc.symm.trans hc'
      exact .inl ⟨ho, rfl⟩
    | unrefreshed hs' ho hd hn =>
      cases hs.symm.trans hs'
      exact .inr (.inl ⟨rfl, ho, hd, hn, rfl⟩)
    | unstored hs' hn ha hu =>
      cases hs.symm.trans hs'
      exact .inr (.inr ⟨rfl, hn, _, ha, hu⟩)
  · rintro (⟨ho, rfl⟩ | ⟨rfl, ho, hd, hn, rfl⟩ | ⟨rfl, hn, artifact, ha, hu⟩)
    · exact .denied hs hc ho
    · exact .unrefreshed hs ho hd hn
    · exact .unstored hs hn ha hu

theorem breaks_body {options : Options} {command : Command} :
    Breaks (body options command) w failure ↔ Crash options w command failure := by
  cases hs : (start options).run.run w with
  | mk started u =>
    obtain rfl := start_unchanged hs
    cases started with
    | error e =>
      have hbody : ∃ rest, body options command = start options >>= rest := by
        cases command <;> exact ⟨_, rfl⟩
      obtain ⟨rest, hrest⟩ := hbody
      rw [hrest, breaks_bind_error hs, ← breaks_iff hs, breaks_start, crash_iff_of_error hs]
    | ok pipeline =>
      obtain ⟨⟨name, hc⟩, environment, he⟩ := exists_of_start hs
      rw [crash_iff_of_ok hs hc]
      cases command with
      | preview =>
        rw [body, preview, breaks_bind_ok hs, breaks_bind_ok (run_printLine ..),
          breaks_bind fun _ => .printLine _, Pipeline.breaks_preview hc he]
        simp only [reduceCtorEq, false_and, or_false]
        rfl
      | apply =>
        rw [body, apply, breaks_bind_ok hs, breaks_bind fun _ => .printLine _,
          Pipeline.breaks_apply hc he]
        simp only [reduceCtorEq, false_and, true_and, or_false]
      | generate =>
        rw [body, breaks_generate hs hc he]
        simp only [reduceCtorEq, false_and, true_and, false_or]

/-- How an exit status is reported: zero for help and for success, without a report, two behind a
report on the usage or the settings, and one behind a report on any other failure, with what a
failed command printed. -/
inductive Reported (words : List String) (w w' : Workspace) : Nat → Prop
  | helped (hr : read words = .error (.help place)) (hn : w'.reports = w.reports) :
    Reported words w w' 0
  | misused (hr : read words = .error (.refused place fault))
    (hn : w'.reports = w.reports ++
      (usageLines place ++ [s!"{place.title}: error: {fault.message}"]).map (· ++ "\n")) :
    Reported words w w' 2
  | done (hr : read words = .ok (command, options))
    (hb : ((body options command).run.run w).1 = .ok ()) (hn : w'.reports = w.reports) :
    Reported words w w' 0
  | misconfigured {failure : Failure} (hr : read words = .ok (command, options))
    (hb : ((body options command).run.run w).1 = .error failure) (hk : failure.concern = .settings)
    (hn : w'.reports = w.reports ++ [s!"Configuration error: {failure.message}" ++ "\n"]) :
    Reported words w w' 2
  | commandFailed {failure : Failure} (hr : read words = .ok (command, options))
    (hb : ((body options command).run.run w).1 = .error failure)
    (hk : failure.concern = .command result)
    (hn : w'.reports = w.reports ++ (s!"{command.label} error: {failure.message}" ::
      if trimmed result.output ≠ "" then [trimmedEnd result.output] else []).map (· ++ "\n")) :
    Reported words w w' 1
  | failed {failure : Failure} (hr : read words = .ok (command, options))
    (hb : ((body options command).run.run w).1 = .error failure) (hk : failure.concern = .migration)
    (hn : w'.reports = w.reports ++ [s!"{command.label} error: {failure.message}" ++ "\n"]) :
    Reported words w w' 1

theorem Reported.le_two {status : Nat} (h : Reported words w w' status) : status ≤ 2 := by
  cases h <;> decide

theorem reported_stop {stop : Stop} (hr : read words = .error stop) :
    ∃ status u, (Stop.run stop).run.run w = (.ok status, u) ∧ Reported words w u status := by
  cases stop with
  | help place =>
    have hprint : ((helpLines place).forM printLine).run.run w =
        (.ok (), w.printing (helpLines place)) := by
      have hp := run_forM_printLine id (helpLines place) w
      rwa [List.map_id] at hp
    rw [Stop.run, run_bind_ok hprint]
    exact ⟨0, _, rfl, .helped hr (w.reports_printing _)⟩
  | refused place fault =>
    rw [Stop.run, run_bind_ok (run_forM_reportLine _ _), run_bind_ok (run_reportLine _ _),
      Workspace.reporting_reporting]
    exact ⟨2, _, rfl, .misused hr (Workspace.reports_reporting _ _)⟩

theorem reported_perform {options : Options} {command : Command}
    (hr : read words = .ok (command, options)) :
    (∃ failure u, (perform options command).run.run w = (.error failure, u) ∧
      Breaks (body options command) w failure ∧ u.reports = w.reports) ∨
    ∃ status u, (perform options command).run.run w = (.ok status, u) ∧
      (∀ failure, ¬ Breaks (body options command) w failure) ∧ Reported words w u status := by
  have hkeep := congrArg Prod.snd (keeps_background_body options command w)
  rw [perform_eq]
  cases hb : (body options command).run.run w with
  | mk result u =>
    rw [hb] at hkeep
    have hreports : u.reports = w.reports := hkeep
    cases result with
    | ok _ =>
      rw [run_concluding_ok _ hb]
      exact .inr ⟨0, u, rfl, fun _ => not_breaks hb, .done hr (by rw [hb]) hreports⟩
    | error failure =>
      have hsound (hk : failure.concern ≠ .unforeseen) (e : Failure) :
          ¬ Breaks (body options command) w e := fun he => hk ((breaks_iff hb).1 he).2
      have hended : ((body options command).run.run w).1 = .error failure := by rw [hb]
      rw [concluding, run_tryCatch_error (run_bind_error hb)]
      cases hk : failure.concern with
      | unforeseen =>
        exact .inl ⟨failure, u, rfl, (breaks_iff hb).2 ⟨rfl, hk⟩, hreports⟩
      | settings =>
        dsimp only
        rw [run_bind_ok (run_reportLine ..)]
        refine .inr ⟨2, _, rfl, hsound (by simp [hk]), .misconfigured hr hended hk ?_⟩
        rw [Workspace.reports_reporting, hreports]
        rfl
      | migration =>
        dsimp only
        rw [run_bind_ok (run_reportLine ..)]
        refine .inr ⟨1, _, rfl, hsound (by simp [hk]), .failed hr hended hk ?_⟩
        rw [Workspace.reports_reporting, hreports]
        rfl
      | command result =>
        dsimp only
        rw [run_bind_ok (run_reportLine ..)]
        by_cases ho : trimmed result.output ≠ ""
        · rw [if_pos ho, run_bind_ok (run_reportLine ..), Workspace.reporting_reporting]
          refine .inr ⟨1, _, rfl, hsound (by simp [hk]), .commandFailed hr hended hk ?_⟩
          rw [Workspace.reports_reporting, hreports, if_pos ho]
          rfl
        · rw [if_neg ho]
          refine .inr ⟨1, _, rfl, hsound (by simp [hk]), .commandFailed hr hended hk ?_⟩
          rw [Workspace.reports_reporting, hreports, if_neg ho]

/-- A run of a command line ends with a failure exactly if its command breaks, and then nothing is
reported. Otherwise it ends with zero, one or two, and a report that goes with it. -/
theorem run_ends (words : List String) (w : Workspace) :
    (∀ failure, ((run words).run.run w).1 = .error failure ↔
      ∃ command options, read words = .ok (command, options) ∧ Crash options w command failure) ∧
    (∀ failure, ((run words).run.run w).1 = .error failure →
      ((run words).run.run w).2.reports = w.reports) ∧
    ∀ status, ((run words).run.run w).1 = .ok status →
      status ≤ 2 ∧ Reported words w ((run words).run.run w).2 status := by
  rw [run]
  cases hr : read words with
  | error stop =>
    obtain ⟨status, u, hstop, hreported⟩ := reported_stop (w := w) hr
    dsimp only
    rw [hstop]
    refine ⟨fun failure => iff_of_false ?_ ?_, ?_, ?_⟩
    · rintro ⟨⟩
    · rintro ⟨command, options, ⟨⟩, -⟩
    · rintro _ ⟨⟩
    · rintro _ ⟨⟩
      exact ⟨hreported.le_two, hreported⟩
  | ok given =>
    obtain ⟨command, options⟩ := given
    dsimp only
    have hcrash (failure : Failure) : (∃ command' options',
        (Except.ok (command, options) : Except Stop _) = .ok (command', options') ∧
          Crash options' w command' failure) ↔ Breaks (body options command) w failure := by
      rw [breaks_body]
      constructor
      · rintro ⟨_, _, ⟨⟩, h⟩
        exact h
      · exact fun h => ⟨_, _, rfl, h⟩
    rcases reported_perform (w := w) hr with ⟨e, u, hrun, hb, hn⟩ | ⟨status, u, hrun, hb, hreported⟩
    · rw [hrun]
      refine ⟨fun failure => ?_, fun _ _ => hn, ?_⟩
      · rw [hcrash]
        constructor
        · rintro ⟨⟩
          exact hb
        · intro h
          cases hb.1.symm.trans h.1
          rfl
      · rintro _ ⟨⟩
    · rw [hrun]
      refine ⟨fun failure => iff_of_false ?_ ?_, ?_, ?_⟩
      · rintro ⟨⟩
      · exact fun h => hb failure ((hcrash failure).1 h)
      · rintro _ ⟨⟩
      · rintro _ ⟨⟩
        exact ⟨hreported.le_two, hreported⟩

def missingWorkspace : Workspace := { emptyWorkspace with outcomes := [.missing] }

theorem missingWorkspace_preview : ∃ u,
    (run ["preview"]).run.run missingWorkspace = (.ok 1, u) ∧
    Reported ["preview"] missingWorkspace u 1 := by
  have hstatus : ((run ["preview"]).run.run missingWorkspace).1 = .ok 1 := by decide +kernel
  obtain ⟨-, hreported⟩ := (run_ends ["preview"] missingWorkspace).2.2 1 hstatus
  cases h : (run ["preview"]).run.run missingWorkspace with
  | mk result u =>
    rw [h] at hstatus hreported
    obtain rfl : result = .ok 1 := hstatus
    exact ⟨u, rfl, hreported⟩

def deniedWorkspace : Workspace := { emptyWorkspace with outcomes := [.denied] }

/-- A directory with a type map of one byte that is no text. -/
def undecodableWorkspace : Workspace :=
  { emptyWorkspace with tree := { entries := [(["types.yaml"], .file [0xFF])] } }

/-- Neither run ends with an exit status. -/
theorem deniedWorkspace_preview :
    ((run ["preview"]).run.run deniedWorkspace).1 = .error (.file "atlas" .accessDenied) ∧
    ((run ["preview", "--type-map", "types.yaml"]).run.run undecodableWorkspace).1 =
      .error (.typeMap "types.yaml" (.document .undecodable)) := by
  decide +kernel

end CommandLine

end SchemaPlan
