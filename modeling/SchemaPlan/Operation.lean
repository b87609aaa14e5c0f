import SchemaPlan.Form
import SchemaPlan.Logged
import SchemaPlan.Statement
import SchemaPlan.Text.LetterCase
import SchemaPlan.TypeSpec

namespace SchemaPlan

inductive Change
  | createTable (table : String)
  | dropTable (table : String)
  /-- `nullable` is absent when the statement does not say. -/
  | addColumn (table column : String) (type : TypeSpec) (nullable : Option Bool)
  | dropColumn (table column : String)
  | createIndex (name table column : String) (unique : Bool)
  | dropIndex (name : String) (table : Option String)
  | unclassified
  deriving DecidableEq

structure Operation where
  statement : Statement
  change : Change
  deriving DecidableEq

def normalizeIdentifier (name : List Char) : String :=
  .ofList (Text.lower (Text.stripChars Form.quotationMarks name))

namespace Form

def kindName : Form → String
  | .createTable .. => "create_table"
  | .dropTable .. => "drop_table"
  | .addColumn .. => "add_column"
  | .dropColumn .. => "drop_column"
  | .createIndex .. => "create_index"
  | .dropIndex .. => "drop_index"

/-- Names of tables and columns are normalized, names of indexes are kept. -/
def change : Form → Except TypeSpec.Fault Change
  | .createTable table => .ok (.createTable (normalizeIdentifier table))
  | .dropTable table => .ok (.dropTable (normalizeIdentifier table))
  | .addColumn table column token nullable => do
    let type ← TypeSpec.parse (.ofList token)
    return .addColumn (normalizeIdentifier table) (normalizeIdentifier column) type nullable
  | .dropColumn table column =>
    .ok (.dropColumn (normalizeIdentifier table) (normalizeIdentifier column))
  | .createIndex unique name table column =>
    .ok (.createIndex (.ofList name) (normalizeIdentifier table) (normalizeIdentifier column)
      unique)
  | .dropIndex name table => .ok (.dropIndex (.ofList name) (table.map normalizeIdentifier))

end Form

namespace Statement

def unrecognizedNotice (position : Nat) : String :=
  s!"Statement {position} is not a recognized shape; it will be executed verbatim"

def unreadableNotice (position : Nat) (form : Form) (fault : TypeSpec.Fault) : String :=
  s!"Statement {position} matched {form.kindName} but could not be parsed ({fault.message}); " ++
    "it will be executed verbatim"

def classify (statement : Statement) : Logged Operation :=
  match Form.read? (Text.trim statement.text.toList) with
  | none => do
    Logged.info (unrecognizedNotice statement.position)
    return ⟨statement, .unclassified⟩
  | some form =>
    match form.change with
    | .ok change => pure ⟨statement, change⟩
    | .error fault => do
      Logged.warning (unreadableNotice statement.position form fault)
      return ⟨statement, .unclassified⟩

end Statement

def classifyAll (statements : List Statement) : Logged (List Operation) :=
  statements.mapM Statement.classify

end SchemaPlan
