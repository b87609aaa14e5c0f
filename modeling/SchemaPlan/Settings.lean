import SchemaPlan.FileTree
import SchemaPlan.Text.Blank
import SchemaPlan.Text.Digit
import SchemaPlan.Text.LetterCase

namespace SchemaPlan

structure Settings where
  environment : Option String := some "dev"
  atlasCommand : Option String := some "atlas"
  projectRoot : Option String := some "."
  migrationsDirectory : Option String := some "db/migrate"
  frameworkVersion : Option String := some "8.0"
  typeMapPath : Option String := none
  /-- Whether the schema file is refreshed after a schema was applied. -/
  schemaDump : Option Bool := some true
  deriving DecidableEq

structure Overrides where
  environment : Option String := none
  atlasCommand : Option String := none
  projectRoot : Option String := none
  migrationsDirectory : Option String := none
  frameworkVersion : Option String := none
  typeMapPath : Option String := none
  schemaDump : Option Bool := none
  deriving DecidableEq

namespace Settings

/-- Every word but four stands for yes. -/
def readFlag (value : String) : Bool :=
  lowered (trimmed value) ∉ ["0", "false", "no", "off"]

/-- Explicit settings win over environment variables, and these over the defaults. -/
def resolve (assignments : List (String × String)) (explicit : Overrides) : Settings :=
  let fromVariable (name : String) := assignments.lookup ("SCHEMABRIDGE_" ++ name)
  let text (given : Option String) (name : String) (default : Option String) :=
    (given.or (fromVariable name)).or default
  { environment := text explicit.environment "ATLAS_ENV" (some "dev")
    atlasCommand := text explicit.atlasCommand "ATLAS_BIN" (some "atlas")
    projectRoot := text explicit.projectRoot "ROOT" (some ".")
    migrationsDirectory := text explicit.migrationsDirectory "MIGRATIONS_DIR" (some "db/migrate")
    frameworkVersion := text explicit.frameworkVersion "RAILS_VERSION" (some "8.0")
    typeMapPath := text explicit.typeMapPath "TYPE_MAP" none
    schemaDump := some ((explicit.schemaDump.or ((fromVariable "SCHEMA_DUMP").map readFlag)).getD true) }

def rootPath? (settings : Settings) : Option Path := settings.projectRoot.map .ofString

def migrationsPath? (settings : Settings) : Option Path := do
  let directory ← settings.migrationsDirectory
  let root ← settings.rootPath?
  return (Path.ofString directory).within root

def absent : String := "None"

def shown (text : Option String) : String := text.getD absent

inductive Problem
  | noEnvironment
  | noAtlasCommand
  | noMigrationsDirectory
  | badFrameworkVersion (shown : String)
  | noTypeMapFile (path : String)
  deriving DecidableEq

def Problem.message : Problem → String
  | .noEnvironment => "atlas_env (use --env or SCHEMABRIDGE_ATLAS_ENV)"
  | .noAtlasCommand => "atlas_bin (use --atlas-bin or SCHEMABRIDGE_ATLAS_BIN)"
  | .noMigrationsDirectory =>
    "migrations_dir (use --migrations-dir or SCHEMABRIDGE_MIGRATIONS_DIR)"
  | .badFrameworkVersion shown => "rails_version must look like '8.0', got " ++ shown
  | .noTypeMapFile path => s!"type map file not found: {path}"

/-- Two decimal numbers around a point; one line feed may follow them. -/
def isVersion (s : List Char) : Bool :=
  let major := s.takeWhile Text.isDecimal
  match s.dropWhile Text.isDecimal with
  | '.' :: rest =>
    let minor := rest.takeWhile Text.isDecimal
    let rest := rest.dropWhile Text.isDecimal
    !major.isEmpty && !minor.isEmpty && (rest = [] || rest = ['\n'])
  | _ => false

def isBlankText (text : Option String) : Bool := text.all (· = "")

def problemsWith (settings : Settings) (typeMapFound : Bool) : List Problem :=
  let version := (settings.frameworkVersion.getD "").toList
  (if isBlankText settings.environment then [.noEnvironment] else []) ++
  (if isBlankText settings.atlasCommand then [.noAtlasCommand] else []) ++
  (if isBlankText settings.migrationsDirectory then [.noMigrationsDirectory] else []) ++
  (if isVersion version then []
    else [.badFrameworkVersion (shown (settings.frameworkVersion.map quoted))]) ++
  (match settings.typeMapPath with
    | some path => if path = "" || typeMapFound then [] else [.noTypeMapFile path]
    | none => [])

def problems (settings : Settings) (tree : FileTree) (directory : List String) :
    Except FileTree.Fault (List Problem) :=
  match settings.typeMapPath.filter (· ≠ "") with
  | none => .ok (settings.problemsWith true)
  | some path => do
    return settings.problemsWith (← tree.isFile directory (.ofString path))

end Settings

end SchemaPlan
