import SchemaPlan.Workspace

namespace SchemaPlan

structure Atlas where
  command : Option String := some "atlas"
  /-- The directory in which commands are run. -/
  directory : Option Path := none
  deriving DecidableEq

namespace Atlas

def missingStatus : Int := 127

def applyWords? (atlas : Atlas) (environment : Option String) (dryRun autoApprove : Bool := false) :
    Option (List String) := do
  let command ← atlas.command
  let environment ← environment
  return [command, "schema", "apply", "--env", environment] ++
    (if dryRun then ["--dry-run"] else []) ++ (if autoApprove then ["--auto-approve"] else [])

/-- Runs a command; what it prints as errors comes behind its output. -/
def run (atlas : Atlas) (words : List String) : Session CommandResult := do
  Session.log .debug ("Running: " ++ " ".intercalate words)
  let name := words.headD ""
  match ← Session.invoke ⟨words, atlas.directory.map (·.text)⟩ with
  | .finished output errors status =>
    return ⟨output.getD "" ++ errors.getD "", status⟩
  | .missing =>
    Session.log .debug ("Command not found: " ++ FileTree.Fault.notFound.message name)
    return ⟨s!"{name}: command not found", missingStatus⟩
  | .denied => throw (.file name .accessDenied)

def runWords (atlas : Atlas) : Option (List String) → Session CommandResult
  | some words => atlas.run words
  | none => throw .settingUnset

def dryRun (atlas : Atlas) (environment : Option String) : Session CommandResult :=
  atlas.runWords (atlas.applyWords? environment true false)

def apply (atlas : Atlas) (environment : Option String) : Session CommandResult :=
  atlas.runWords (atlas.applyWords? environment false true)

def dumpWords : List String := ["bin/rails", "db:schema:dump"]

def dumpSchema (atlas : Atlas) : Session CommandResult := do
  let result ← atlas.run dumpWords
  if !result.ok then
    Session.log .warning (s!"Rails schema dump failed with exit code {result.status}:\n" ++
      trimmedEnd result.output)
  return result

end Atlas

end SchemaPlan
