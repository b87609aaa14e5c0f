import SchemaPlan.Pipeline
import SchemaPlan.Proofs.Rendering

namespace SchemaPlan

variable (mapping : TypeMapping) (frameworkVersion : String) (statements : List Statement)
  (name : Option String)

/-- The operations, their steps and the artifact, with all that is logged on the way. -/
def compiled : Logged Compilation :=
  let operations := statements.map (·.classify.value)
  let steps := operations.map fun o => (⟨o, o.rendered mapping⟩ : Step)
  let artifact := Artifact.assemble (steps.map (·.block)) (some (Artifact.nameOrDefault name))
    frameworkVersion
  { value := ⟨operations, steps, artifact.value, artifact.value.bind (·.flaw? mapping steps)⟩
    records := statements.flatMap (·.classify.records) ++
      (operations.flatMap (Operation.notices mapping) ++ artifact.records) }

theorem run_compile : (compile mapping frameworkVersion statements name).run =
    ⟨.ok (compiled mapping frameworkVersion statements name).value,
      (compiled mapping frameworkVersion statements name).records⟩ := by
  have hc : classifyAll statements = ⟨statements.map (·.classify.value),
      statements.flatMap (·.classify.records)⟩ := Logged.mapM_eq _ _
  have hf : ∀ o ∈ (classifyAll statements).value, o.change.Fits := by
    intro o ho
    rw [hc] at ho
    obtain ⟨statement, -, rfl⟩ := List.mem_map.1 ho
    exact statement.classify_fits
  rw [compile, Rendering.run_bind (Rendering.run_liftM _),
    Rendering.run_bind (Operation.run_renderAll hf),
    Rendering.run_bind (Rendering.run_liftM _), hc]
  simp only [ExceptT.run_pure, Logged.value_pure, Logged.records_pure, List.append_nil]
  rfl

theorem statements_compiled :
    (compiled mapping frameworkVersion statements name).value.steps.map (·.operation.statement) =
      statements := by
  simp [compiled, Function.comp_def, Statement.statement_classify]

theorem Session.run_ofRendering {x : Rendering α} (h : x.run = ⟨.ok a, records⟩) (w : Workspace) :
    (Session.ofRendering x).run.run w =
      (.ok a, { w with events := w.events ++ records.map .logged }) := by
  rw [Session.ofRendering, h]
  rfl

namespace Artifact

def ofBody (body : List Block) (name frameworkVersion : String) : Artifact :=
  { name, frameworkVersion, body
    slug := (Slug.ofName name).value
    className := (Slug.className name).value
    content := source (Slug.className name).value body frameworkVersion }

theorem value_assemble (body : List Block) (name : Option String) (frameworkVersion : String) :
    (assemble body name frameworkVersion).value =
      if body = [] then none else some (ofBody body (nameOrDefault name) frameworkVersion) := by
  cases body <;> rfl

end Artifact

/-- Every run of the compiler succeeds, with one operation and one step for each statement. -/
theorem Pipeline.compile_total (pipeline : Pipeline) (statements : List Statement)
    (name : Option String) (w : Workspace) :
    ∃ (compilation : Compilation) (records : List LogRecord),
      (pipeline.compile statements name).run.run w =
        (.ok compilation, { w with events := w.events ++ records.map .logged }) ∧
      compilation.operations.map (·.statement) = statements ∧
      compilation.steps.map (·.operation) = compilation.operations ∧
      (∀ step ∈ compilation.steps, step.block.verbatim = true ↔
        step.operation.change = .unclassified ∨ ∃ table column type nullable,
          step.operation.change = .addColumn table column type nullable ∧
            pipeline.mapping.resolve type = none) ∧
      (compilation.artifact = none ↔ statements = []) ∧
      (∀ artifact ∈ compilation.artifact, artifact.fallbackCount = compilation.fallbackCount) ∧
      compilation.fallbackCount = (compilation.steps.filter (·.block.verbatim)).length := by
  let version := Settings.shown pipeline.settings.frameworkVersion
  have hr := run_compile pipeline.mapping version statements name
  refine ⟨_, _, Session.run_ofRendering hr w, ?_, ?_, ?_, ?_, ?_, ?_⟩
  · simp [compiled, Function.comp_def, Statement.statement_classify]
  · simp [compiled, Function.comp_def]
  · intro step hm
    obtain ⟨o, -, rfl⟩ := List.mem_map.1 hm
    exact Operation.verbatim_rendered
  · simp [compiled, Artifact.value_assemble]
  · intro artifact ha
    simp only [compiled, Artifact.value_assemble, Option.mem_def, Option.ite_none_left_eq_some,
      Option.some.injEq] at ha
    obtain ⟨-, rfl⟩ := ha
    exact List.countP_map ..
  · exact List.countP_eq_length_filter

/-- A superscript as a parameter, a parameter that no option takes, and a table. -/
def mixedStatements : List Statement :=
  Statement.number 0 [
    "ALTER TABLE t ADD COLUMN c VARCHAR(²)",
    "ALTER TABLE t ADD COLUMN c INTEGER(11)",
    "CREATE TABLE users (id integer)"]

def standardPipeline : Pipeline := ⟨{}, {}, .standard, ⟨⟨0, ["db", "migrate"]⟩⟩⟩

def emptyWorkspace : Workspace := ⟨{}, [], [], .time ⟨⟨2024, 2, 29⟩, 12, 0, 0⟩, [], [], []⟩

theorem mixedStatements_compile : ∃ compilation artifact w,
    (standardPipeline.compile mixedStatements (some "")).run.run emptyWorkspace =
      (.ok compilation, w) ∧
    compilation.artifact = some artifact ∧ artifact.fallbackCount = 2 ∧
    ∃ step ∈ compilation.steps, step.block.verbatim = true ∧
      step.operation.change = .addColumn "t" "c" ⟨"INTEGER", [11]⟩ none := by
  obtain ⟨compilation, records, hr, -, -, hv, hn, ha, -⟩ :=
    standardPipeline.compile_total mixedStatements (some "") emptyWorkspace
  have hc := Session.run_ofRendering (run_compile .standard "8.0" mixedStatements (some ""))
    emptyWorkspace
  obtain rfl : (compiled .standard "8.0" mixedStatements (some "")).value = compilation :=
    Except.ok.inj (congrArg Prod.fst (hc.symm.trans hr))
  obtain ⟨artifact, hs⟩ := Option.ne_none_iff_exists'.1 fun h => absurd (hn.1 h) (by decide)
  obtain ⟨step, hm, ho⟩ :
      ∃ step ∈ (compiled .standard "8.0" mixedStatements (some "")).value.steps,
        step.operation.change = .addColumn "t" "c" ⟨"INTEGER", [11]⟩ none := by decide +kernel
  have hb := (hv step hm).2 (.inr ⟨_, _, _, _, ho, by decide +kernel⟩)
  exact ⟨_, artifact, _, hr, hs, (ha artifact hs).trans (by decide +kernel), step, hm, hb, ho⟩

end SchemaPlan
