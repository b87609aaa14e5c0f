import SchemaPlan.Proofs.Migration.Writing
import SchemaPlan.Proofs.Pipeline

namespace SchemaPlan

open Session

namespace Pipeline

theorem ledger_generate (pipeline : Pipeline) (name : Option String) (w : Workspace) :
    ∀ invocations ∈ pipeline.dryRunCommands,
      Issued invocations w ((pipeline.generate name).run.run w).2 := by
  have hwrite (compilation : Compilation) :
      Keeps Workspace.ledger (pipeline.store? compilation) := by
    rw [store?]
    cases compilation.artifact with
    | none => exact .pure _
    | some artifact =>
      exact (MigrationStore.keeps_write (fun _ _ => rfl) fun _ _ => rfl).bind fun _ => .pure _
  have hlog (severity : Severity) (message : String) :
      Keeps Workspace.ledger (Session.log severity message) := fun _ => rfl
  refine pipeline.consults_plan.issued_bind (fun statements => ?_) w
  split
  · exact (hlog _ _).bind fun _ => .pure _
  · refine (pipeline.quiet_compile _ _).ledger.bind fun compilation => ?_
    dsimp only
    split
    · exact (hlog _ _).bind fun _ => (hwrite _).bind fun _ => .pure _
    · exact (Keeps.pure _).bind fun _ => (hwrite _).bind fun _ => .pure _

end Pipeline

inductive Request
  | plan
  | compile (statements : List Statement) (name : Option String)
  | generate (name : Option String)
  | preview
  | apply
  deriving DecidableEq

namespace Request

def run (pipeline : Pipeline) : Request → Session Unit
  | .plan => do let _ ← pipeline.plan
  | .compile statements name => do let _ ← pipeline.compile statements name
  | .generate name => do let _ ← pipeline.generate name
  | .preview => do let _ ← pipeline.preview
  | .apply => do let _ ← pipeline.apply

/-- The calls one after the other, whether they succeed or not. -/
def runAll (pipeline : Pipeline) (w : Workspace) (requests : List Request) : Workspace :=
  requests.foldl (fun w request => ((request.run pipeline).run.run w).2) w

/-- The words of the commands of a call, given what the first of them does. -/
def words (command environment : String) (dump : Bool) (outcome : Outcome) :
    Request → List (List String)
  | .compile .. => []
  | .plan | .generate _ | .preview =>
    [[command, "schema", "apply", "--env", environment, "--dry-run"]]
  | .apply =>
    [command, "schema", "apply", "--env", environment, "--auto-approve"] ::
      if outcome.succeeds && dump then [["bin/rails", "db:schema:dump"]] else []

def trace (command environment : String) (dump : Bool) :
    List Outcome → List Request → List (List String)
  | _, [] => []
  | outcomes, request :: rest =>
    let own := request.words command environment dump
      (outcomes.headD (.finished (some "") (some "") 0))
    own ++ trace command environment dump (outcomes.drop own.length) rest

variable {pipeline : Pipeline} {command environment : String}

theorem issued (hc : pipeline.atlas.command = some command)
    (he : pipeline.settings.environment = some environment) (request : Request) (w : Workspace) :
    Issued ((request.words command environment (pipeline.settings.schemaDump = some true)
      w.outcome).map (⟨·, pipeline.atlas.directory.map (·.text)⟩)) w
      ((request.run pipeline).run.run w).2 := by
  have hdry : pipeline.dryRunCommands = some
      [⟨[command, "schema", "apply", "--env", environment, "--dry-run"],
        pipeline.atlas.directory.map (·.text)⟩] := by
    rw [Pipeline.dryRunCommands, he, Atlas.applyWords?_eq hc]
    rfl
  have happly : pipeline.applyCommands w.outcome = some
      (([command, "schema", "apply", "--env", environment, "--auto-approve"] ::
        if w.outcome.succeeds && pipeline.settings.schemaDump = some true then
          [["bin/rails", "db:schema:dump"]]
        else []).map (⟨·, pipeline.atlas.directory.map (·.text)⟩)) := by
    rw [Pipeline.applyCommands, he, Atlas.applyWords?_eq hc, List.map_cons, apply_ite (List.map _)]
    rfl
  cases request with
  | plan =>
    rw [run, run_discard]
    exact pipeline.consults_plan.issued w _ hdry
  | compile statements name =>
    rw [run, run_discard]
    exact (pipeline.quiet_compile statements name).issued w _ rfl
  | generate name =>
    rw [run, run_discard]
    exact pipeline.ledger_generate name w _ hdry
  | preview =>
    rw [run, run_discard]
    exact pipeline.consults_preview.issued w _ hdry
  | apply =>
    rw [run, run_discard]
    exact pipeline.consults_apply.issued w _ happly

theorem issued_runAll (hc : pipeline.atlas.command = some command)
    (he : pipeline.settings.environment = some environment) (requests : List Request)
    (w : Workspace) :
    Issued ((trace command environment (pipeline.settings.schemaDump = some true) w.outcomes
      requests).map (⟨·, pipeline.atlas.directory.map (·.text)⟩)) w
      (runAll pipeline w requests) := by
  induction requests generalizing w with
  | nil => exact .of_ledger rfl
  | cons request requests ih =>
    have hfirst := issued hc he request w
    have hrest := ih ((request.run pipeline).run.run w).2
    rw [hfirst.outcomes, List.length_map] at hrest
    rw [trace, List.map_append]
    exact hfirst.trans hrest

theorem countP_words (command environment : String) (dump : Bool) (outcome : Outcome)
    (request : Request) :
    (request.words command environment dump outcome).countP
      (·.getLast? = some "--auto-approve") = [request].count .apply := by
  cases request with
  | plan => rfl
  | compile statements name => rfl
  | generate name => rfl
  | preview => rfl
  | apply =>
    rw [words]
    split <;> rfl

theorem countP_trace (command environment : String) (dump : Bool) (outcomes : List Outcome)
    (requests : List Request) :
    (trace command environment dump outcomes requests).countP
      (·.getLast? = some "--auto-approve") = requests.count .apply := by
  induction requests generalizing outcomes with
  | nil => rfl
  | cons request requests ih =>
    rw [trace, List.countP_append, countP_words, ih, ← List.count_append, List.singleton_append]

/-- The commands of any calls on a pipeline are, call by call, the intended ones, each run once and
in the root of the project; and there are as many that approve of their changes as calls to apply. -/
theorem runAll_invocations {settings : Settings} {root : String}
    (hs : (Pipeline.start settings).run.run start = (.ok pipeline, started))
    (hc : settings.atlasCommand = some command) (he : settings.environment = some environment)
    (hr : settings.projectRoot = some root) (requests : List Request) (w : Workspace) :
    ∃ issued : List Invocation,
      (runAll pipeline w requests).invocations = w.invocations ++ issued ∧
      issued = (trace command environment (settings.schemaDump = some true) w.outcomes
        requests).map (⟨·, some (Path.ofString root).text⟩) ∧
      issued.countP (·.words.getLast? = some "--auto-approve") = requests.count .apply := by
  obtain ⟨hsettings, hatlas, -⟩ := Pipeline.start_eq_ok hs
  have hroot : pipeline.atlas.directory = some (.ofString root) := by
    rw [hatlas, Settings.rootPath?, hr]
    rfl
  have hcommand : pipeline.atlas.command = some command := by rw [hatlas, hc]
  have hi := (issued_runAll hcommand (hsettings ▸ he) requests w).invocations
  rw [hroot, hsettings] at hi
  refine ⟨_, hi, rfl, ?_⟩
  rw [List.countP_map]
  exact countP_trace ..

end Request

def mixedRequests : List Request :=
  [.plan, .apply, .compile mixedStatements none, .generate none, .apply, .preview]

/-- A missing command, an application that succeeds with a refresh that may not be run, a dry run
and an application that fail, and silence. -/
def mixedOutcomes : List Outcome :=
  [.missing, .finished none none 0, .denied, .finished (some "") none 1,
    .finished none (some "locked") 2]

theorem mixedRequests_invocations : ∃ (pipeline : Pipeline) (issued : List Invocation),
    (Pipeline.start {}).run.run emptyWorkspace = (.ok pipeline, emptyWorkspace) ∧
    (Request.runAll pipeline { emptyWorkspace with outcomes := mixedOutcomes }
      mixedRequests).invocations = issued ∧
    issued.map (·.words) = [
      ["atlas", "schema", "apply", "--env", "dev", "--dry-run"],
      ["atlas", "schema", "apply", "--env", "dev", "--auto-approve"],
      ["bin/rails", "db:schema:dump"],
      ["atlas", "schema", "apply", "--env", "dev", "--dry-run"],
      ["atlas", "schema", "apply", "--env", "dev", "--auto-approve"],
      ["atlas", "schema", "apply", "--env", "dev", "--dry-run"]] ∧
    issued.countP (·.words.getLast? = some "--auto-approve") = 2 := by
  have hs : (Pipeline.start {}).run.run emptyWorkspace =
      (.ok ⟨{}, ⟨some "atlas", some (.ofString ".")⟩, .standard,
        ⟨(Path.ofString "db/migrate").within (.ofString ".")⟩⟩, emptyWorkspace) := rfl
  obtain ⟨issued, hi, ht, hn⟩ := Request.runAll_invocations hs rfl rfl rfl mixedRequests
    { emptyWorkspace with outcomes := mixedOutcomes }
  refine ⟨_, issued, hs, hi, ?_, hn⟩
  rw [ht, List.map_map]
  rfl

end SchemaPlan
