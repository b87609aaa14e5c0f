import SchemaPlan.Settings

namespace SchemaPlan.CommandLine

inductive Command
  | generate
  | preview
  | apply
  deriving DecidableEq

namespace Command

def all : List Command := [.generate, .preview, .apply]

def names : Command → List String
  | .generate => ["generate", "g"]
  | .preview => ["preview", "p"]
  | .apply => ["apply"]

def name (command : Command) : String := command.names.headD ""

def ofName? (name : String) : Option Command := all.find? (·.names.contains name)

/-- Only a new migration is named on the command line. -/
def takesName (command : Command) : Bool := command = .generate

end Command

/-- The part of the command line that a word belongs to. -/
inductive Place
  | program
  | within (command : Command)
  deriving DecidableEq

def Place.title : Place → String
  | .program => "schemabridge"
  | .within command => "schemabridge " ++ command.name

inductive Switch
  | help
  | verbose
  | skipSchemaDump
  | environment
  | projectRoot
  | migrationsDirectory
  | frameworkVersion
  | typeMapPath
  | atlasCommand
  deriving DecidableEq

namespace Switch

/-- The names of a switch; those of one letter belong to switches without a value. -/
def names : Switch → List String
  | .help => ["-h", "--help"]
  | .verbose => ["-v", "--verbose"]
  | .skipSchemaDump => ["--skip-schema-dump"]
  | .environment => ["--env"]
  | .projectRoot => ["--root"]
  | .migrationsDirectory => ["--migrations-dir"]
  | .frameworkVersion => ["--rails-version"]
  | .typeMapPath => ["--type-map"]
  | .atlasCommand => ["--atlas-bin"]

def takesValue : Switch → Bool
  | .help | .verbose | .skipSchemaDump => false
  | _ => true

def title (switch : Switch) : String := "/".intercalate switch.names

def settings : List Switch :=
  [.environment, .projectRoot, .migrationsDirectory, .frameworkVersion, .typeMapPath, .atlasCommand]

def named? (switches : List Switch) (name : List Char) : Option Switch :=
  switches.find? fun switch => switch.names.any (·.toList = name)

end Switch

def Place.switches : Place → List Switch
  | .program => [.help, .verbose]
  | .within .generate => .help :: Switch.settings
  | .within .preview => .help :: Switch.settings
  | .within .apply => .help :: .skipSchemaDump :: Switch.settings

end SchemaPlan.CommandLine
