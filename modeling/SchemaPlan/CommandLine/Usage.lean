import SchemaPlan.CommandLine.Switch

namespace SchemaPlan.CommandLine

def usageLines : Place → List String
  | .program => ["usage: schemabridge [-h] [-v] \x7bgenerate,g,preview,p,apply\x7d ..."]
  | .within .generate => [
    "usage: schemabridge generate [-h] [--env ATLAS_ENV] [--root PROJECT_ROOT]",
    "                             [--migrations-dir MIGRATIONS_DIR]",
    "                             [--rails-version RAILS_VERSION]",
    "                             [--type-map TYPE_MAP_PATH]",
    "                             [--atlas-bin ATLAS_BIN]",
    "                             [name]"]
  | .within .preview => [
    "usage: schemabridge preview [-h] [--env ATLAS_ENV] [--root PROJECT_ROOT]",
    "                            [--migrations-dir MIGRATIONS_DIR]",
    "                            [--rails-version RAILS_VERSION]",
    "                            [--type-map TYPE_MAP_PATH] [--atlas-bin ATLAS_BIN]"]
  | .within .apply => [
    "usage: schemabridge apply [-h] [--skip-schema-dump] [--env ATLAS_ENV]",
    "                          [--root PROJECT_ROOT]",
    "                          [--migrations-dir MIGRATIONS_DIR]",
    "                          [--rails-version RAILS_VERSION]",
    "                          [--type-map TYPE_MAP_PATH] [--atlas-bin ATLAS_BIN]"]

def switchLines : Switch → List String
  | .help => ["  -h, --help            show this help message and exit"]
  | .verbose => ["  -v, --verbose         Debug logging"]
  | .skipSchemaDump => ["  --skip-schema-dump    Do not run rails db:schema:dump after applying"]
  | .environment => ["  --env ATLAS_ENV       Atlas environment name"]
  | .projectRoot => ["  --root PROJECT_ROOT   Rails application root"]
  | .migrationsDirectory => [
    "  --migrations-dir MIGRATIONS_DIR",
    "                        Migrations directory, relative to --root"]
  | .frameworkVersion => [
    "  --rails-version RAILS_VERSION",
    "                        ActiveRecord::Migration version"]
  | .typeMapPath => [
    "  --type-map TYPE_MAP_PATH",
    "                        YAML file with extra type mappings"]
  | .atlasCommand => [
    "  --atlas-bin ATLAS_BIN",
    "                        Path to the atlas executable"]

def introductionLines : Place → List String
  | .program => [
    "Generate Rails migrations from Atlas schema plans",
    "",
    "positional arguments:",
    "  \x7bgenerate,g,preview,p,apply\x7d",
    "    generate (g)        Generate a Rails migration from the schema diff",
    "    preview (p)         Preview schema changes",
    "    apply               Apply the schema and update Rails schema.rb",
    ""]
  | .within .generate => [
    "positional arguments:",
    "  name                  Migration name (default: schema_update)",
    ""]
  | .within _ => []

def helpLines (place : Place) : List String :=
  usageLines place ++ [""] ++ introductionLines place ++ ["options:"] ++
    place.switches.flatMap switchLines

end SchemaPlan.CommandLine
