import SchemaPlan.Operation
import SchemaPlan.Ruby.Heredoc
import SchemaPlan.Ruby.Literal
import SchemaPlan.TypeMapping

namespace SchemaPlan

structure Block where
  lines : List String
  /-- Whether the block runs a statement as it is. -/
  verbatim : Bool := false
  deriving DecidableEq

structure Step where
  operation : Operation
  block : Block
  deriving DecidableEq

/-- Log records, and a fault when a number is too long to be written. -/
abbrev Rendering := ExceptT Numeral.Fault Logged

def rubySymbol (name : String) : String := .ofList (Ruby.symbol name.toList)

def rubyLiteral (value : String) : String := .ofList (Ruby.literal value.toList)

namespace Statement

def verbatimBlock (statement : Statement) : Block :=
  ⟨(Ruby.executeBlock statement.text.toList).map .ofList, true⟩

end Statement

namespace Change

def createTableBlock (table : String) : Block :=
  { lines := [s!"create_table {rubySymbol table} do |t|", "end"] }

def dropTableBlock (table : String) : Block := { lines := [s!"drop_table {rubySymbol table}"] }

def addColumnBlock (table column type : String) (nullable : Option Bool) : Block :=
  let constraint := if nullable = some false then ", null: false" else ""
  { lines := [s!"add_column {rubySymbol table}, {rubySymbol column}, {type}{constraint}"] }

def dropColumnBlock (table column : String) : Block :=
  { lines := [s!"remove_column {rubySymbol table}, {rubySymbol column}"] }

def createIndexBlock (name table column : String) (unique : Bool) : Block :=
  let uniqueness := if unique then ", unique: true" else ""
  let arguments := s!"{rubySymbol table}, {rubySymbol column}, name: {rubyLiteral name}"
  { lines := [s!"add_index {arguments}{uniqueness}"] }

/-- An empty table name counts as none. -/
def dropIndexBlock (name : String) (table : Option String) : Block :=
  match table.filter (· ≠ "") with
  | some table => { lines := [s!"remove_index {rubySymbol table}, name: {rubyLiteral name}"] }
  | none => { lines := [s!"remove_index name: {rubyLiteral name}"] }

end Change

namespace Operation

def unmappedNotice (position : Nat) (type : String) : String :=
  s!"Statement {position}: type '{type}' has no mapping that keeps its parameters; " ++
    "it will be executed verbatim"

/-- A column whose type has no migration type is added by its statement. -/
def block (mapping : TypeMapping) (operation : Operation) : Rendering Block :=
  match operation.change with
  | .createTable table => pure (Change.createTableBlock table)
  | .dropTable table => pure (Change.dropTableBlock table)
  | .addColumn table column type nullable =>
    match mapping.resolve type with
    | some target => do
      let text ← (liftM target.text : Rendering String)
      return Change.addColumnBlock table column text nullable
    | none => do
      let text ← (liftM type.text : Rendering String)
      liftM (Logged.warning (unmappedNotice operation.statement.position text))
      return operation.statement.verbatimBlock
  | .dropColumn table column => pure (Change.dropColumnBlock table column)
  | .createIndex name table column unique =>
    pure (Change.createIndexBlock name table column unique)
  | .dropIndex name table => pure (Change.dropIndexBlock name table)
  | .unclassified => pure operation.statement.verbatimBlock

/-- The first flaw in the lines of an operation; only a type map brings any into them. -/
def flaw? (mapping : TypeMapping) (operation : Operation) : Option Flaw :=
  match operation.change with
  | .addColumn table column type _ => do
    let flaw ← mapping.resolve type >>= (·.flaw?)
    return flaw.behind s!"add_column {rubySymbol table}, {rubySymbol column}, ".toList
  | _ => none

def step (mapping : TypeMapping) (operation : Operation) : Rendering Step := do
  let block ← operation.block mapping
  return ⟨operation, block⟩

end Operation

def renderAll (mapping : TypeMapping) (operations : List Operation) : Rendering (List Step) :=
  operations.mapM (Operation.step mapping)

end SchemaPlan
