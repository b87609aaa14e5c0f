import SchemaPlan.Atlas
import SchemaPlan.Migration.Store
import SchemaPlan.Plan

namespace SchemaPlan

structure Pipeline where
  settings : Settings
  atlas : Atlas
  mapping : TypeMapping
  store : MigrationStore
  deriving DecidableEq

/-- What a generating run did; without a planned statement, nothing is compiled or stored. -/
structure Generation where
  statements : List Statement := []
  compilation : Compilation := {}
  migration : Option StoredMigration := none
  deriving DecidableEq

namespace Generation

def hasChanges (generation : Generation) : Bool := !generation.statements.isEmpty

def fallbackCount (generation : Generation) : Nat := generation.compilation.fallbackCount

end Generation

def Plan.ofDryRun (environment : String) (result : CommandResult) : Session (List Statement) :=
  if result.ok then Session.ofLogged (Plan.statements result.output)
  else throw (.planUnavailable environment result)

namespace Pipeline

def settingOr (setting : Option α) : Session α :=
  match setting with
  | some value => return value
  | none => throw .settingUnset

def start (settings : Settings) : Session Pipeline := do
  let root ← settingOr settings.rootPath?
  let mapping ←
    match settings.typeMapPath.filter (· ≠ "") with
    | some path => TypeMapping.load (.ofString path)
    | none => pure .standard
  let directory ← settingOr settings.migrationsPath?
  return ⟨settings, ⟨settings.atlasCommand, some root⟩, mapping, ⟨directory⟩⟩

def environment (pipeline : Pipeline) : String := Settings.shown pipeline.settings.environment

def plan (pipeline : Pipeline) : Session (List Statement) := do
  Session.log .info s!"Generating migration plan for env '{pipeline.environment}'..."
  let result ← pipeline.atlas.dryRun pipeline.settings.environment
  let statements ← Plan.ofDryRun pipeline.environment result
  Session.log .info s!"Found {statements.length} change(s)"
  return statements

def compile (pipeline : Pipeline) (statements : List Statement) (name : Option String := none) :
    Session Compilation :=
  Session.ofRendering (SchemaPlan.compile pipeline.mapping
    (Settings.shown pipeline.settings.frameworkVersion) statements name)

def store? (pipeline : Pipeline) (compilation : Compilation) :
    Session (Option StoredMigration) :=
  compilation.artifact.mapM fun artifact => pipeline.store.write artifact compilation.flaw

def generate (pipeline : Pipeline) (name : Option String := none) : Session Generation := do
  let statements ← pipeline.plan
  if statements.isEmpty then
    Session.log .info "No schema changes detected"
    return {}
  let compilation ← pipeline.compile statements name
  let fallbacks := compilation.fallbackCount
  if fallbacks ≠ 0 then
    Session.log .info
      s!"{fallbacks} of {statements.length} statement(s) will be executed as raw SQL"
  let migration ← pipeline.store? compilation
  return { statements, compilation, migration }

def preview (pipeline : Pipeline) : Session String := do
  let result ← pipeline.atlas.dryRun pipeline.settings.environment
  if result.ok then return result.output
  else throw (.planUnavailable pipeline.environment result)

def apply (pipeline : Pipeline) : Session CommandResult := do
  Session.log .info s!"Applying schema to env '{pipeline.environment}'..."
  let result ← pipeline.atlas.apply pipeline.settings.environment
  if !result.ok then throw (.applyFailed pipeline.environment result)
  if pipeline.settings.schemaDump = some true then
    Session.log .info "Updating Rails schema.rb..."
    let _ ← pipeline.atlas.dumpSchema
  return result

end Pipeline

end SchemaPlan
