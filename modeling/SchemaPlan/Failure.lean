import SchemaPlan.Settings
import SchemaPlan.TypeMapping.Definition

namespace SchemaPlan

structure CommandResult where
  output : String
  status : Int
  deriving DecidableEq

def CommandResult.ok (result : CommandResult) : Bool := result.status = 0

inductive Failure
  | badSettings (problems : List Settings.Problem)
  | typeMapUnreadable (path : String) (fault : FileTree.Fault)
  | typeMap (path : String) (fault : TypeMapping.Fault)
  | planUnavailable (environment : String) (result : CommandResult)
  | applyFailed (environment : String) (result : CommandResult)
  /-- `path` is the directory that could not be made, on the way to `directory`. -/
  | directoryNotMade (directory path : String) (fault : FileTree.Fault)
  | notWritten (path : String) (fault : FileTree.Fault)
  | noFreeVersion (slug directory : String)
  /-- The source of a migration is no text. -/
  | notEncodable (flaw : Flaw)
  | file (path : String) (fault : FileTree.Fault)
  | numeral (fault : Numeral.Fault)
  | clock (fault : Moment.Fault)
  | calendarEnded
  | settingUnset
  deriving DecidableEq

namespace Failure

def message : Failure → String
  | .badSettings problems =>
    "Invalid configuration:\n  - " ++ "\n  - ".intercalate (problems.map (·.message))
  | .typeMapUnreadable path fault =>
    s!"Failed to read type map '{path}': {fault.message path}"
  | .typeMap path fault => fault.message path
  | .planUnavailable environment result =>
    s!"Atlas dry run for env '{environment}' failed with exit code {result.status}"
  | .applyFailed environment result =>
    s!"Atlas schema apply for env '{environment}' failed with exit code {result.status}"
  | .directoryNotMade directory path fault =>
    s!"Failed to create migrations directory '{directory}': {fault.message path}"
  | .notWritten path fault => s!"Failed to write migration '{path}': {fault.message path}"
  | .noFreeVersion slug directory => s!"No free migration version for '{slug}' in {directory}"
  | .notEncodable flaw => flaw.message
  | .file path fault => fault.message path
  | .numeral fault => fault.message
  | .clock fault => fault.message
  | .calendarEnded => "date value out of range"
  | .settingUnset => ""

/-- Who has to deal with a failure. -/
inductive Concern
  | settings
  | command (result : CommandResult)
  | migration
  /-- A failure that no report is prepared for. -/
  | unforeseen
  deriving DecidableEq

def typeMapConcern : TypeMapping.Fault → Concern
  | .unnamedFields _ => .unforeseen
  | .document .malformed => .migration
  | .document _ => .unforeseen
  | _ => .migration

def concern : Failure → Concern
  | .badSettings _ => .settings
  | .typeMapUnreadable .. => .migration
  | .typeMap _ fault => typeMapConcern fault
  | .planUnavailable _ result => .command result
  | .applyFailed _ result => .command result
  | .directoryNotMade .. => .migration
  | .notWritten .. => .migration
  | .noFreeVersion .. => .migration
  | .notEncodable _ => .unforeseen
  | .file .. => .unforeseen
  | .numeral _ => .unforeseen
  | .clock _ => .unforeseen
  | .calendarEnded => .unforeseen
  | .settingUnset => .unforeseen

end Failure

end SchemaPlan
