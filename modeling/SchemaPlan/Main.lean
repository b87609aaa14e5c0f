import SchemaPlan.CommandLine.Run
import Std.Time.DateTime

namespace SchemaPlan.CommandLine

def variableNames : List String :=
  ["ATLAS_ENV", "ATLAS_BIN", "ROOT", "MIGRATIONS_DIR", "RAILS_VERSION", "TYPE_MAP", "SCHEMA_DUMP"].map
    ("SCHEMABRIDGE_" ++ ·)

def currentMoment : IO Moment := do
  let now := (Std.Time.DateTime.ofTimestampWithZone (← Std.Time.Timestamp.now) .UTC).toPlainDateTime
  return ⟨⟨now.date.year.toNat, now.date.month.val.toNat, now.date.day.val.toNat⟩,
    now.time.hour.val.toNat, now.time.minute.val.toNat, now.time.second.val.toNat⟩

partial def readAll (input : IO.FS.Stream) (text : String := "") : IO String := do
  let line ← input.getLine
  if line.isEmpty then return text else readAll input (text ++ line)

def surroundings (words : List String) : IO Workspace := do
  let assignments ← variableNames.filterMapM fun name => do
    return (← IO.getEnv name).map (name, ·)
  let outcomes ←
    match read words with
    | .ok _ => pure [Outcome.finished (some (← readAll (← IO.getStdin))) none 0]
    | .error _ => pure []
  return { tree := {}, directory := [], assignments, clock := .time (← currentMoment), outcomes }

end SchemaPlan.CommandLine

open SchemaPlan in
def main (words : List String) : IO UInt32 := do
  let (result, w) := (CommandLine.run words).run.run (← CommandLine.surroundings words)
  IO.print w.output
  IO.eprint (w.errorOutput (CommandLine.isVerbose words))
  match result with
  | .ok status => return status.toUInt32
  | .error failure =>
    IO.eprintln failure.message
    return 1
