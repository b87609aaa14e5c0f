import SchemaPlan.Migration.Slug
import SchemaPlan.Migration.Step

namespace SchemaPlan

structure Artifact where
  name : String
  slug : String
  className : String
  frameworkVersion : String
  body : List Block
  content : String
  deriving DecidableEq

namespace Artifact

def defaultName : String := "schema_update"

def defaultFrameworkVersion : String := "8.0"

def indentLine (line : String) : String := if line = "" then "" else "    " ++ line

def header (className frameworkVersion : String) : List String :=
  [s!"class {className} < ActiveRecord::Migration[{frameworkVersion}]", "  def up"]

def closing : List String := [
  "  end",
  "",
  "  def down",
  "    # Rollbacks are produced by reverting the schema source and generating again",
  "    raise ActiveRecord::IrreversibleMigration",
  "  end",
  "end"]

def sourceLines (className : String) (body : List Block) (frameworkVersion : String) :
    List String :=
  header className frameworkVersion ++ body.flatMap (·.lines.map indentLine) ++ closing

def source (className : String) (body : List Block)
    (frameworkVersion : String := defaultFrameworkVersion) : String :=
  "\n".intercalate (sourceLines className body frameworkVersion) ++ "\n"

def nameOrDefault (name : Option String) : String := (name.filter (· ≠ "")).getD defaultName

/-- An artifact that keeps the order of its body; an empty body gives none. -/
def assemble (body : List Block) (name : Option String := none)
    (frameworkVersion : String := defaultFrameworkVersion) : Logged (Option Artifact) :=
  if body.isEmpty then pure none
  else do
    let name := nameOrDefault name
    let className ← Slug.className name
    let slug ← Slug.ofName name
    return some ⟨name, slug, className, frameworkVersion, body,
      source className body frameworkVersion⟩

def fallbackCount (artifact : Artifact) : Nat := artifact.body.countP (·.verbatim)

def flaw? (artifact : Artifact) (mapping : TypeMapping) (steps : List Step) : Option Flaw := do
  let (before, rest) := steps.span fun step => (step.operation.flaw? mapping).isNone
  let flaw ← rest.head? >>= (·.operation.flaw? mapping)
  let lines := header artifact.className artifact.frameworkVersion ++
    before.flatMap (·.block.lines.map indentLine)
  return flaw.behind ("\n".intercalate lines ++ "\n    ").toList

end Artifact

structure Compilation where
  operations : List Operation := []
  steps : List Step := []
  artifact : Option Artifact := none
  /-- What keeps the source of the artifact from being encoded. -/
  flaw : Option Flaw := none
  deriving DecidableEq

namespace Compilation

def fallbackCount (compilation : Compilation) : Nat :=
  compilation.steps.countP (·.block.verbatim)

end Compilation

def compile (mapping : TypeMapping) (frameworkVersion : String) (statements : List Statement)
    (name : Option String := none) : Rendering Compilation := do
  let operations ← (liftM (classifyAll statements) : Rendering (List Operation))
  let steps ← renderAll mapping operations
  let artifact ← (liftM (Artifact.assemble (steps.map (·.block))
    (some (Artifact.nameOrDefault name)) frameworkVersion) : Rendering (Option Artifact))
  return ⟨operations, steps, artifact, artifact.bind (·.flaw? mapping steps)⟩

end SchemaPlan
