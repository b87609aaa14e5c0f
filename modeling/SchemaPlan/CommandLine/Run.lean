import SchemaPlan.CommandLine.Reading
import SchemaPlan.CommandLine.Usage
import SchemaPlan.Pipeline

namespace SchemaPlan

def Workspace.output (w : Workspace) : String :=
  .join (w.events.map fun event => match event with
    | .printed text => text
    | _ => "")

/-- Everything reported so far, with the log; details are logged for a verbose run only. -/
def Workspace.errorOutput (w : Workspace) (verbose : Bool) : String :=
  .join (w.events.map fun event => match event with
    | .printed _ => ""
    | .reported text => text
    | .logged entry =>
      if verbose || entry.severity ≠ .debug then entry.message ++ "\n" else "")

namespace CommandLine

/-- Ends a run with an exit status; a failure is reported under a label if there is a way to. -/
def concluding (label : String) (run : Session Unit) : Session Nat :=
  tryCatch (do run; return 0) fun failure => do
    match failure.concern with
    | .settings =>
      Session.reportLine s!"Configuration error: {failure.message}"
      return 2
    | .command result =>
      Session.reportLine s!"{label} error: {failure.message}"
      if trimmed result.output ≠ "" then Session.reportLine (trimmedEnd result.output)
      return 1
    | .migration =>
      Session.reportLine s!"{label} error: {failure.message}"
      return 1
    | .unforeseen => throw failure

def start (options : Options) : Session Pipeline := do
  Pipeline.start (← Settings.checked options.overrides)

def announce (statements : List Statement) : Session Unit := do
  Session.printLine s!"Found {statements.length} changes:"
  statements.forM fun statement => Session.printLine s!"  {statement.position}. {statement.text}"

def present (migration : StoredMigration) : Session Unit := do
  Session.printLine s!"Created migration: {migration.fileName}"
  Session.printLine s!"Location: {migration.path.text}"
  Session.printLine "\nMigration content:"
  Session.printLine migration.artifact.content

def generate (options : Options) : Session Unit := do
  let pipeline ← start options
  let statements ← pipeline.plan
  if statements.isEmpty then Session.printLine "No schema changes detected"
  else
    announce statements
    let compilation ← pipeline.compile statements (some (options.name.getD Artifact.defaultName))
    if compilation.fallbackCount ≠ 0 then
      Session.printLine (s!"{compilation.fallbackCount} statement(s) not recognized; " ++
        "they will run as raw SQL via execute")
    match compilation.artifact with
    | some artifact => present (← pipeline.store.write artifact compilation.flaw)
    | none => pure ()

def preview (options : Options) : Session Unit := do
  let pipeline ← start options
  Session.printLine "Migration plan:"
  Session.printLine (trimmedEnd (← pipeline.preview))

def apply (options : Options) : Session Unit := do
  let pipeline ← start options
  let _ ← pipeline.apply
  Session.printLine "Schema applied successfully"

def perform (options : Options) : Command → Session Nat
  | .generate => concluding "Generation" (generate options)
  | .preview => concluding "Preview" (preview options)
  | .apply => concluding "Apply" (apply options)

def Stop.run : Stop → Session Nat
  | .help place => do
    (helpLines place).forM Session.printLine
    return 0
  | .refused place fault => do
    (usageLines place).forM Session.reportLine
    Session.reportLine s!"{place.title}: error: {fault.message}"
    return 2

def run (words : List String) : Session Nat :=
  match read words with
  | .ok (command, options) => perform options command
  | .error stop => stop.run

def isVerbose (words : List String) : Bool :=
  match read words with
  | .ok (_, options) => options.verbose
  | .error _ => false

end CommandLine

end SchemaPlan
